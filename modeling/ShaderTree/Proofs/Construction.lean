import ShaderTree.Program
import ShaderTree.Proofs.StatementReader

/-!
# Trees built step by step

`Step.statements` reads a list of steps as the statements it describes: an
assignment for each `set`, a conditional for each `branch`, with the block of the
last list for its other side, if there is any.  Performing the steps adds exactly
these statements to the open scope.

In a tree built this way every branch is a block, so an `else` never follows an
open conditional.
-/

namespace ShaderTree

namespace Step

mutual

/-- The statement that a step describes. -/
def statement : Step → Statement
  | .set target source => .assign target source
  | .branch condition body otherwise =>
    match lastBlock? otherwise with
    | none => .ifThen condition (.block (statements body))
    | some other => .ifThenElse condition (.block (statements body)) other

/-- The statements that a list of steps describes. -/
def statements : List Step → List Statement
  | [] => []
  | s :: rest => s.statement :: statements rest

/-- The block of the last of several lists of steps. -/
def lastBlock? : List (List Step) → Option Statement
  | [] => none
  | [steps] => some (.block (statements steps))
  | _ :: steps :: rest => lastBlock? (steps :: rest)

end

end Step

namespace Build

theorem value_nested {body : Build Unit} {scope : Scope} {inner : Scope}
    (h : (body.run { stage := scope.stage }).value = ((), inner)) :
    ((nested body).run scope).value = (inner.finish, scope) := by
  change ((((body.run { stage := scope.stage }).value.2).finish, scope) : Statement × Scope) = _
  rw [h]

theorem value_bind {α β : Type} {x : Build α} {f : α → Build β} {scope scope' : Scope} {a : α}
    (h : (x.run scope).value = (a, scope')) :
    ((x >>= f).run scope).value = ((f a).run scope').value := by
  change ((f (x.run scope).value.1).run (x.run scope).value.2).value = _
  rw [h]

theorem value_map {α β : Type} {x : Build α} (f : α → β) {scope scope' : Scope} {a : α}
    (h : (x.run scope).value = (a, scope')) : ((f <$> x).run scope).value = (f a, scope') := by
  change (f (x.run scope).value.1, (x.run scope).value.2) = _
  rw [h]

end Build

namespace Step

mutual

theorem value_perform : ∀ (step : Step) (scope : Scope),
    (step.perform.run scope).value =
      ((), { scope with statements := scope.statements ++ [step.statement] })
  | .set target source, scope => rfl
  | .branch condition body otherwise, scope => by
      have hbody : ((Build.nested (performAll body)).run scope).value =
          (.block (statements body), scope) := Build.value_nested (value_performAll body _)
      have hotherwise := value_nestedLast otherwise scope
      rw [perform, Build.branch, Build.value_bind hbody, Build.value_bind hotherwise, statement]
      cases lastBlock? otherwise with
      | none => rfl
      | some other => rfl

/-- Steps add the statements that they describe to the open scope. -/
theorem value_performAll : ∀ (steps : List Step) (scope : Scope),
    ((performAll steps).run scope).value =
      ((), { scope with statements := scope.statements ++ statements steps })
  | [], scope => by
      rw [statements, List.append_nil]
      rfl
  | step :: steps, scope => by
      rw [performAll, Build.value_bind (value_perform step scope), value_performAll steps,
        statements, List.append_assoc, List.singleton_append]

theorem value_nestedLast : ∀ (lists : List (List Step)) (scope : Scope),
    ((Build.nestedLast (performEach lists)).run scope).value = (lastBlock? lists, scope)
  | [], _ => rfl
  | [steps], scope => by
      have hblock : ((Build.nested (performAll steps)).run scope).value =
          (.block (statements steps), scope) := Build.value_nested (value_performAll steps _)
      exact Build.value_map some hblock
  | steps :: next :: rest, scope => by
      have hblock : ((Build.nested (performAll steps)).run scope).value =
          (.block (statements steps), scope) := Build.value_nested (value_performAll steps _)
      have hrest := value_nestedLast (next :: rest) scope
      rw [performEach] at hrest ⊢
      rw [performEach, Build.nestedLast, Build.value_bind hblock, hrest, lastBlock?]
      exact List.cons_ne_nil _ _

end

mutual

theorem wellNested_statement : ∀ step : Step, step.statement.WellNested
  | .set target source => .assign target source
  | .branch condition body otherwise => by
      have hbody := Statement.WellNested.block (wellNested_statements body)
      rw [statement]
      split
      · exact .ifThen hbody
      · next other hother =>
          exact .ifThenElse hbody rfl (wellNested_lastBlock? otherwise other hother)

theorem wellNested_statements : ∀ steps : List Step, ∀ s ∈ statements steps, s.WellNested
  | [], _, hs => by cases hs
  | step :: steps, s, hs => by
      rw [statements] at hs
      rcases List.mem_cons.mp hs with rfl | hs
      · exact wellNested_statement step
      · exact wellNested_statements steps s hs

theorem wellNested_lastBlock? : ∀ (lists : List (List Step)) (s : Statement),
    lastBlock? lists = some s → s.WellNested
  | [], _, h => by cases h
  | [steps], _, h => by
      cases h
      exact .block (wellNested_statements steps)
  | _ :: next :: rest, s, h => wellNested_lastBlock? (next :: rest) s h

end

end Step

/-- A tree that is built from nothing by some steps. -/
def Statement.IsBuilt (s : Statement) : Prop :=
  ∃ (stage : Stage) (steps : List Step),
    (Shader.build (Step.performAll steps) : Logged (Shader stage)).value.body = s

/-- A built tree is the block of the statements that its steps describe. -/
theorem Statement.IsBuilt.exists_statements {s : Statement} (h : s.IsBuilt) :
    ∃ steps, s = .block (Step.statements steps) := by
  obtain ⟨stage, steps, rfl⟩ := h
  refine ⟨steps, ?_⟩
  have hvalue := Step.value_performAll steps { stage }
  change (((Step.performAll steps).run { stage }).value.2).finish = _
  rw [hvalue]
  rfl

end ShaderTree
