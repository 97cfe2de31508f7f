import ShaderTree.References

/-!
# The visits of a walk as a list

`Operand.visits` and `Statement.visits` list the visits of a walk in the order in
which they are made: a node before its parts, the parts from left to right.  A
walk with any action does nothing but act on this list from front to back, so
whatever is collected by a walk is a fold over it.

`Statement.mentions` are the variables met on the way, repeats included, and the
references of a tree are its mentions inserted one after another.
-/

namespace ShaderTree

namespace Operand

mutual

/-- The visits of a walk over an operand. -/
def visits : Operand → List Visit
  | .var v => [.operand (.var v), .variable v, .ofVariable v]
  | .int n => [.operand (.int n), .int n]
  | .float x => [.operand (.float x), .float x]
  | .bool b => [.operand (.bool b), .bool b]
  | .binop op left right =>
    .operand (.binop op left right) :: .binop op left right :: (left.visits ++ right.visits)
  | .vector ty parts => .operand (.vector ty parts) :: .vector ty parts :: visitsAll parts
  | .swizzle source mask =>
    .operand (.swizzle source mask) :: .swizzle source mask :: source.visits
  | .call f args => .operand (.call f args) :: .call f args :: visitsAll args

/-- The visits of a walk over several operands. -/
def visitsAll : List Operand → List Visit
  | [] => []
  | o :: rest => o.visits ++ visitsAll rest

end

end Operand

namespace Statement

mutual

/-- The visits of a walk over a statement. -/
def visits : Statement → List Visit
  | .block body => .statement (.block body) :: .block body :: visitsAll body
  | .assign target source =>
    .statement (.assign target source) :: .assign target source ::
      (target.visits ++ source.visits)
  | .ifThen condition body =>
    .statement (.ifThen condition body) :: .conditional condition false ::
      (condition.visits ++ body.visits)
  | .ifThenElse condition body otherwise =>
    .statement (.ifThenElse condition body otherwise) :: .conditional condition true ::
      (condition.visits ++ body.visits ++ otherwise.visits)

/-- The visits of a walk over several statements. -/
def visitsAll : List Statement → List Visit
  | [] => []
  | s :: rest => s.visits ++ visitsAll rest

end

end Statement

section Walk

variable {m : Type → Type} [Monad m] [LawfulMonad m]

namespace Operand

mutual

/-- A walk acts on the visits one after another. -/
theorem walk_eq_forM (act : Visit → m Unit) :
    ∀ o : Operand, o.walk act = o.visits.forM act
  | .var v => by simp [walk, visits]
  | .int n => by simp [walk, visits]
  | .float x => by simp [walk, visits]
  | .bool b => by simp [walk, visits]
  | .binop op left right => by
      have hleft := walk_eq_forM act left
      have hright := walk_eq_forM act right
      simp [walk, visits, hleft, hright]
  | .vector ty parts => by
      have hparts := walkAll_eq_forM act parts
      simp [walk, visits, hparts]
  | .swizzle source mask => by
      have hsource := walk_eq_forM act source
      simp [walk, visits, hsource]
  | .call f args => by
      have hargs := walkAll_eq_forM act args
      simp [walk, visits, hargs]

theorem walkAll_eq_forM (act : Visit → m Unit) :
    ∀ os : List Operand, walkAll act os = (visitsAll os).forM act
  | [] => by simp [walkAll, visitsAll]
  | o :: rest => by
      have ho := walk_eq_forM act o
      have hrest := walkAll_eq_forM act rest
      simp [walkAll, visitsAll, ho, hrest]

end

end Operand

namespace Statement

mutual

/-- A walk acts on the visits one after another. -/
theorem walk_eq_forM (act : Visit → m Unit) :
    ∀ s : Statement, s.walk act = s.visits.forM act
  | .block body => by
      have hbody := walkAll_eq_forM act body
      simp [walk, visits, hbody]
  | .assign target source => by
      simp [walk, visits, Operand.walk_eq_forM]
  | .ifThen condition body => by
      have hbody := walk_eq_forM act body
      simp [walk, visits, Operand.walk_eq_forM, hbody]
  | .ifThenElse condition body otherwise => by
      have hbody := walk_eq_forM act body
      have hotherwise := walk_eq_forM act otherwise
      simp [walk, visits, Operand.walk_eq_forM, hbody, hotherwise]

theorem walkAll_eq_forM (act : Visit → m Unit) :
    ∀ body : List Statement, walkAll act body = (visitsAll body).forM act
  | [] => by simp [walkAll, visitsAll]
  | s :: rest => by
      have hs := walk_eq_forM act s
      have hrest := walkAll_eq_forM act rest
      simp [walkAll, visitsAll, hs, hrest]

end

end Statement

end Walk

/-- The variable that is met at a visit, as the kind of variable it is. -/
def Visit.mention? : Visit → Option Variable
  | .attribute a => some a
  | .varying v => some v
  | .uniform u => some u
  | .temp t => some t
  | .output => some .output
  | _ => none

@[simp] theorem Visit.mention?_ofVariable (v : Variable) :
    (Visit.ofVariable v).mention? = some v := by
  cases v <;> rfl

/-- The variables that a statement mentions, in order and with repeats. -/
def Statement.mentions (s : Statement) : List Variable := s.visits.filterMap Visit.mention?

namespace References

mutual

theorem foldl_note_operand : ∀ (o : Operand) (r : References),
    o.visits.foldl note r = r.insertMany (o.visits.filterMap Visit.mention?)
  | .var v, r => by
      cases v <;> rfl
  | .int n, r => rfl
  | .float x, r => rfl
  | .bool b, r => rfl
  | .binop op left right, r => by
      simp only [Operand.visits, List.foldl_cons, List.foldl_append, note]
      rw [foldl_note_operand left, foldl_note_operand right, ← insertMany_append]
      simp [Visit.mention?, List.filterMap_cons]
  | .vector ty parts, r => by
      simp only [Operand.visits, List.foldl_cons, note]
      rw [foldl_note_operands parts]
      simp [Visit.mention?, List.filterMap_cons]
  | .swizzle source mask, r => by
      simp only [Operand.visits, List.foldl_cons, note]
      rw [foldl_note_operand source]
      simp [Visit.mention?, List.filterMap_cons]
  | .call f args, r => by
      simp only [Operand.visits, List.foldl_cons, note]
      rw [foldl_note_operands args]
      simp [Visit.mention?, List.filterMap_cons]

theorem foldl_note_operands : ∀ (os : List Operand) (r : References),
    (Operand.visitsAll os).foldl note r =
      r.insertMany ((Operand.visitsAll os).filterMap Visit.mention?)
  | [], r => rfl
  | o :: rest, r => by
      simp only [Operand.visitsAll, List.foldl_append]
      rw [foldl_note_operand o, foldl_note_operands rest, ← insertMany_append,
        List.filterMap_append]

end

mutual

theorem foldl_note_statement : ∀ (s : Statement) (r : References),
    s.visits.foldl note r = r.insertMany (s.visits.filterMap Visit.mention?)
  | .block body, r => by
      simp only [Statement.visits, List.foldl_cons, note]
      rw [foldl_note_statements body]
      simp [Visit.mention?, List.filterMap_cons]
  | .assign target source, r => by
      simp only [Statement.visits, List.foldl_cons, List.foldl_append, note]
      rw [foldl_note_operand target, foldl_note_operand source, ← insertMany_append]
      simp [Visit.mention?, List.filterMap_cons]
  | .ifThen condition body, r => by
      simp only [Statement.visits, List.foldl_cons, List.foldl_append, note]
      rw [foldl_note_operand condition, foldl_note_statement body, ← insertMany_append]
      simp [Visit.mention?, List.filterMap_cons]
  | .ifThenElse condition body otherwise, r => by
      simp only [Statement.visits, List.foldl_cons, List.foldl_append, note]
      rw [foldl_note_operand condition, foldl_note_statement body,
        foldl_note_statement otherwise, ← insertMany_append, ← insertMany_append]
      simp [Visit.mention?, List.filterMap_cons]

theorem foldl_note_statements : ∀ (body : List Statement) (r : References),
    (Statement.visitsAll body).foldl note r =
      r.insertMany ((Statement.visitsAll body).filterMap Visit.mention?)
  | [], r => rfl
  | s :: rest, r => by
      simp only [Statement.visitsAll, List.foldl_append]
      rw [foldl_note_statement s, foldl_note_statements rest, ← insertMany_append,
        List.filterMap_append]

end

theorem run_forM_note (vs : List Visit) (r : References) :
    ((vs.forM fun v => modify (·.note v) : StateM References Unit).run r).2 =
      vs.foldl note r := by
  induction vs generalizing r with
  | nil => rfl
  | cons v vs ih => exact ih (r.note v)

/-- Collecting a tree inserts its mentions one after another. -/
theorem collect_eq_insertMany (r : References) (s : Statement) :
    r.collect s = r.insertMany s.mentions := by
  unfold collect
  rw [Statement.walk_eq_forM, run_forM_note, foldl_note_statement]
  rfl

end References

end ShaderTree
