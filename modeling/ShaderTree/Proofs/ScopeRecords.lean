import ShaderTree.Proofs.Construction

/-!
# What scopes leave behind

Each list of steps for a side of a conditional is run in a scope of its own, and the scope
leaves one record when it closes.  `Step.scopes` lists these lists of steps in the order
in which their scopes close: what is nested in a side before the side itself, the first
side of a conditional before the others, and the others in the order in which they were
given, also those that a later one replaces.

The statements of a construction are told by its steps alone, and so are its records.
Every branch of a built tree is a block, at any depth.
-/

namespace ShaderTree

/-- A statement in which every branch of a conditional is a block. -/
inductive Statement.Braced : Statement → Prop where
  | block {body : List Statement} (hbody : ∀ s ∈ body, s.Braced) : Braced (.block body)
  | assign (target source : Operand) : Braced (.assign target source)
  | ifThen {condition : Operand} {body : List Statement} (hbody : (block body).Braced) :
      Braced (.ifThen condition (.block body))
  | ifThenElse {condition : Operand} {body otherwise : List Statement}
      (hbody : (block body).Braced) (hotherwise : (block otherwise).Braced) :
      Braced (.ifThenElse condition (.block body) (.block otherwise))

namespace Step

mutual

/-- The lists of steps that a step runs in scopes of their own, in the order in which the
scopes close. -/
def scopes : Step → List (List Step)
  | .set _ _ => []
  | .branch _ body otherwise => scopesAll body ++ body :: scopesEach otherwise

/-- The scopes of several steps in one scope. -/
def scopesAll : List Step → List (List Step)
  | [] => []
  | step :: rest => step.scopes ++ scopesAll rest

/-- The scopes of several lists of steps, each with the scopes inside it. -/
def scopesEach : List (List Step) → List (List Step)
  | [] => []
  | steps :: rest => scopesAll steps ++ steps :: scopesEach rest

end

/-- The record that a scope leaves in which the given steps were run. -/
def closing (steps : List Step) : Log.Record :=
  ⟨.trace, "closed nested scope with " ++ toString steps.length ++ " statements"⟩

theorem length_statements (steps : List Step) : (statements steps).length = steps.length := by
  induction steps with
  | nil => rfl
  | cons step steps ih => rw [statements, List.length_cons, List.length_cons, ih]

theorem statements_append (before after : List Step) :
    statements (before ++ after) = statements before ++ statements after := by
  induction before with
  | nil => rfl
  | cons step before ih => rw [List.cons_append, statements, statements, ih, List.cons_append]

end Step

namespace Build

theorem log_bind {α β : Type} {x : Build α} {f : α → Build β} {scope scope' : Scope} {a : α}
    (h : (x.run scope).value = (a, scope')) :
    ((x >>= f).run scope).log = (x.run scope).log ++ ((f a).run scope').log := by
  change (x.run scope).log ++ ((f (x.run scope).value.1).run (x.run scope).value.2).log = _
  rw [h]

/-- A nested scope leaves the records of what is inside it and then its own. -/
theorem log_nested (steps : List Step) (scope : Scope) :
    ((nested (Step.performAll steps)).run scope).log =
      ((Step.performAll steps).run { stage := scope.stage }).log ++ [Step.closing steps] := by
  have hvalue := Step.value_performAll steps { stage := scope.stage }
  change _ ++ [(⟨.trace, "closed nested scope with " ++
    toString ((Step.performAll steps).run { stage := scope.stage }).value.2.statements.length ++
      " statements"⟩ : Log.Record)] = _
  rw [hvalue, List.nil_append, Step.length_statements]
  rfl

end Build

namespace Step

mutual

theorem log_perform : ∀ (step : Step) (scope : Scope),
    (step.perform.run scope).log = step.scopes.map closing
  | .set target source, scope => rfl
  | .branch condition body otherwise, scope => by
      have hbody : ((Build.nested (performAll body)).run scope).value =
          (.block (statements body), scope) := Build.value_nested (value_performAll body _)
      have hotherwise := value_nestedLast otherwise scope
      rw [perform, Build.branch, Build.log_bind hbody, Build.log_bind hotherwise, Build.log_nested,
        log_performAll body, log_nestedLast otherwise, scopes, List.map_append, List.map_cons,
        List.append_assoc, List.singleton_append]
      -- the conditional itself is added without a record
      cases lastBlock? otherwise with
      | none => exact congrArg _ (congrArg _ (List.append_nil _))
      | some other => exact congrArg _ (congrArg _ (List.append_nil _))

/-- Steps leave the records of the scopes that they run. -/
theorem log_performAll : ∀ (steps : List Step) (scope : Scope),
    ((performAll steps).run scope).log = (scopesAll steps).map closing
  | [], _ => rfl
  | step :: steps, scope => by
      rw [performAll, Build.log_bind (value_perform step scope), log_perform step,
        log_performAll steps, scopesAll, List.map_append]

theorem log_nestedLast : ∀ (lists : List (List Step)) (scope : Scope),
    ((Build.nestedLast (performEach lists)).run scope).log = (scopesEach lists).map closing
  | [], _ => rfl
  | [steps], scope => by
      have hlog : ((Build.nestedLast (performEach [steps])).run scope).log =
          ((Build.nested (performAll steps)).run scope).log := List.append_nil _
      rw [hlog, Build.log_nested, log_performAll steps, scopesEach, scopesEach, List.map_append]
      rfl
  | steps :: next :: rest, scope => by
      have hblock : ((Build.nested (performAll steps)).run scope).value =
          (.block (statements steps), scope) := Build.value_nested (value_performAll steps _)
      have hrest := log_nestedLast (next :: rest) scope
      rw [scopesEach, List.map_append, List.map_cons, ← hrest, performEach, performEach,
        Build.nestedLast, Build.log_bind hblock, Build.log_nested, log_performAll steps,
        List.append_assoc, List.singleton_append]
      exact List.cons_ne_nil _ _

end

mutual

theorem braced_statement : ∀ step : Step, step.statement.Braced
  | .set target source => .assign target source
  | .branch condition body otherwise => by
      have hbody := Statement.Braced.block (braced_statements body)
      rw [statement]
      split
      · exact .ifThen hbody
      · next other hother =>
          obtain ⟨block, rfl, hblock⟩ := braced_lastBlock? otherwise other hother
          exact .ifThenElse hbody hblock

theorem braced_statements : ∀ steps : List Step, ∀ s ∈ statements steps, s.Braced
  | [], _, hs => by cases hs
  | step :: steps, s, hs => by
      rw [statements] at hs
      rcases List.mem_cons.mp hs with rfl | hs
      · exact braced_statement step
      · exact braced_statements steps s hs

theorem braced_lastBlock? : ∀ (lists : List (List Step)) (s : Statement),
    lastBlock? lists = some s → ∃ body, s = .block body ∧ (Statement.block body).Braced
  | [], _, h => by cases h
  | [steps], _, h => by
      cases h
      exact ⟨_, rfl, .block (braced_statements steps)⟩
  | _ :: next :: rest, s, h => braced_lastBlock? (next :: rest) s h

end

/-- A construction in a fresh scope ends with the statements that its steps describe and
with one record for each scope that was run inside it. Each step on its own adds its one
statement to the scope as it was. -/
theorem extend_performAll (stage : Stage) (steps : List Step) :
    let outer (steps : List Step) : Logged Scope := Scope.extend { stage } (performAll steps)
    (outer steps).value.stage = stage ∧
      (outer steps).value.finish = .block (statements steps) ∧
      (outer steps).value.finish.Braced ∧
      (∀ before step,
        (outer (before ++ [step])).value = ((outer before).value.extend step.perform).value ∧
          (outer (before ++ [step])).value.statements =
            (outer before).value.statements ++ [step.statement]) ∧
      (outer steps).log = (scopesAll steps).map closing := by
  intro outer
  have houter : ∀ steps, (outer steps).value = ⟨stage, statements steps⟩ := by
    intro steps
    exact congrArg Prod.snd (value_performAll steps { stage })
  have hstep : ∀ (scope : Scope) (step : Step), (scope.extend step.perform).value =
      { scope with statements := scope.statements ++ [step.statement] } := by
    intro scope step
    exact congrArg Prod.snd (value_perform step scope)
  refine ⟨by rw [houter], by rw [houter]; rfl, ?_, fun before step => ?_, ?_⟩
  · rw [houter]
    exact .block (braced_statements steps)
  · rw [houter, houter, hstep, statements_append]
    exact ⟨rfl, rfl⟩
  · exact (List.append_nil _).trans (log_performAll steps { stage })

/-- A conditional inside another, and two other sides of which the first is run for nothing. -/
example :
    let color : Operand := .var (.temp ⟨0, .vec4⟩)
    let set : Step := .set color .out
    let steps : List Step :=
      [.branch (.bool true) [set, .branch (.bool false) [] [], set] [[set, set], [set]], set]
    (scopesAll steps).map (·.length) = [0, 3, 2, 1] ∧
      statements steps = [.ifThenElse (.bool true)
          (.block [.assign color .out, .ifThen (.bool false) (.block []), .assign color .out])
          (.block [.assign color .out]),
        .assign color .out] :=
  ⟨rfl, rfl⟩

end Step

end ShaderTree
