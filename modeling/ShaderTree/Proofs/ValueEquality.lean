import Mathlib.Tactic.Tauto
import ShaderTree.Proofs.Visits

/-!
# Equality by value

Trees are compared with floats compared as numbers.  As numbers the two zeros are one and
a NaN is nothing, so equality by value is identity of trees in which the negative zero is
written as the positive one, among the trees that hold no NaN.  It is a partial
equivalence: a tree differs from itself exactly if it holds a NaN.
-/

namespace ShaderTree

namespace Binary32

/-- The zero whose sign bit is set. -/
def negativeZero : Binary32 := ⟨0x80000000⟩

/-- The float, with the positive zero in place of the negative one. -/
def unsignZero (x : Binary32) : Binary32 := if x = negativeZero then zero else x

variable {x y : Binary32}

theorem isZero_iff : x.isZero ↔ x = zero ∨ x = negativeZero := by
  obtain ⟨bits⟩ := x
  have hlt : bits.toNat < 2 * 2147483648 := bits.toNat_lt
  have hzero : (⟨bits⟩ : Binary32).isZero ↔ bits.toNat % 2147483648 = 0 := decide_eq_true_iff
  have hpositive : (⟨bits⟩ : Binary32) = zero ↔ bits.toNat = 0 := by
    rw [zero, mk.injEq, ← UInt32.toNat_inj]
    rfl
  have hnegative : (⟨bits⟩ : Binary32) = negativeZero ↔ bits.toNat = 2147483648 := by
    rw [negativeZero, mk.injEq, ← UInt32.toNat_inj]
    rfl
  rw [hzero, hpositive, hnegative]
  omega

theorem unsignZero_of_isZero (h : x.isZero) : x.unsignZero = zero := by
  rcases isZero_iff.mp h with rfl | rfl <;> rfl

theorem unsignZero_of_not_isZero (h : ¬ x.isZero) : x.unsignZero = x :=
  if_neg fun hx => h (isZero_iff.mpr (.inr hx))

theorem isZero_unsignZero (x : Binary32) : x.unsignZero.isZero = x.isZero := by
  by_cases h : x.isZero
  · rw [unsignZero_of_isZero h, h]
    rfl
  · rw [unsignZero_of_not_isZero h]

theorem unsignZero_eq_iff : x.unsignZero = y.unsignZero ↔ x = y ∨ (x.isZero ∧ y.isZero) := by
  constructor
  · intro h
    have hzero : x.isZero = y.isZero := by rw [← isZero_unsignZero x, h, isZero_unsignZero]
    by_cases hx : x.isZero
    · exact .inr ⟨hx, hzero ▸ hx⟩
    · rw [unsignZero_of_not_isZero hx, unsignZero_of_not_isZero (hzero ▸ hx)] at h
      exact .inl h
  · rintro (rfl | ⟨hx, hy⟩)
    · rfl
    · rw [unsignZero_of_isZero hx, unsignZero_of_isZero hy]

/-- Floats are equal as numbers if they are the same but for the sign of a zero. -/
theorem equal_iff :
    x.equal y ↔ ¬ x.isNaN ∧ ¬ y.isNaN ∧ x.unsignZero = y.unsignZero := by
  have hbits : x.bits = y.bits ↔ x = y := by
    cases x
    cases y
    exact (mk.injEq ..).symm.to_iff
  rw [unsignZero_eq_iff, equal]
  simp only [Bool.and_eq_true, Bool.or_eq_true, Bool.not_eq_true', decide_eq_true_eq, hbits,
    Bool.not_eq_true, and_assoc]

end Binary32

namespace Operand

mutual

/-- An operand with the positive zero in place of every negative one. -/
def unsignZeros : Operand → Operand
  | .var v => .var v
  | .int n => .int n
  | .float x => .float x.unsignZero
  | .bool b => .bool b
  | .binop op left right => .binop op left.unsignZeros right.unsignZeros
  | .vector ty parts => .vector ty (unsignZerosAll parts)
  | .swizzle source mask => .swizzle source.unsignZeros mask
  | .call f args => .call f (unsignZerosAll args)

/-- Several operands with the positive zero in place of every negative one. -/
def unsignZerosAll : List Operand → List Operand
  | [] => []
  | o :: rest => o.unsignZeros :: unsignZerosAll rest

end

end Operand

namespace Statement

mutual

/-- A statement with the positive zero in place of every negative one. -/
def unsignZeros : Statement → Statement
  | .block body => .block (unsignZerosAll body)
  | .assign target source => .assign target.unsignZeros source.unsignZeros
  | .ifThen condition body => .ifThen condition.unsignZeros body.unsignZeros
  | .ifThenElse condition body otherwise =>
    .ifThenElse condition.unsignZeros body.unsignZeros otherwise.unsignZeros

/-- Several statements with the positive zero in place of every negative one. -/
def unsignZerosAll : List Statement → List Statement
  | [] => []
  | s :: rest => s.unsignZeros :: unsignZerosAll rest

end

end Statement

/-- The float literal that is met at a visit. -/
def Visit.float? : Visit → Option Binary32
  | .float x => some x
  | _ => none

/-- The float literals of an operand, from left to right. -/
def Operand.floats (o : Operand) : List Binary32 := o.visits.filterMap Visit.float?

/-- The float literals of several operands. -/
def Operand.floatsAll (os : List Operand) : List Binary32 :=
  (Operand.visitsAll os).filterMap Visit.float?

/-- The float literals of a statement, from left to right. -/
def Statement.floats (s : Statement) : List Binary32 := s.visits.filterMap Visit.float?

/-- The float literals of several statements. -/
def Statement.floatsAll (body : List Statement) : List Binary32 :=
  (Statement.visitsAll body).filterMap Visit.float?

namespace Operand

theorem floats_var (v : Variable) : (var v).floats = [] := by
  cases v <;> rfl

theorem floats_binop (op : BinOp) (left right : Operand) :
    (binop op left right).floats = left.floats ++ right.floats := List.filterMap_append

theorem floats_vector (ty : Ty) (parts : List Operand) :
    (vector ty parts).floats = floatsAll parts := rfl

theorem floats_swizzle (source : Operand) (mask : String) :
    (swizzle source mask).floats = source.floats := rfl

theorem floats_call (f : Builtin) (args : List Operand) :
    (call f args).floats = floatsAll args := rfl

theorem floatsAll_cons (o : Operand) (rest : List Operand) :
    floatsAll (o :: rest) = o.floats ++ floatsAll rest := List.filterMap_append

mutual

/-- Operands are equal by value if neither holds a NaN and they are the same but for the
signs of zeros. -/
theorem equal_iff : ∀ a b : Operand, a.equal b ↔
    (∀ x ∈ a.floats, ¬ x.isNaN) ∧ (∀ x ∈ b.floats, ¬ x.isNaN) ∧ a.unsignZeros = b.unsignZeros
  | .var v, b => by
      cases b with
      | var w => simp [equal, unsignZeros, floats_var]
      | _ => simp [equal, unsignZeros]
  | .int n, b => by
      cases b with
      | int m => simp [equal, unsignZeros, floats, visits, Visit.float?]
      | _ => simp [equal, unsignZeros]
  | .float x, b => by
      cases b with
      | float y => simp [equal, unsignZeros, floats, visits, Visit.float?, Binary32.equal_iff]
      | _ => simp [equal, unsignZeros]
  | .bool n, b => by
      cases b with
      | bool m => simp [equal, unsignZeros, floats, visits, Visit.float?]
      | _ => simp [equal, unsignZeros]
  | .binop op left right, b => by
      cases b with
      | binop op' left' right' =>
          simp only [equal, Bool.and_eq_true, decide_eq_true_eq, equal_iff left left',
            equal_iff right right', floats_binop, List.forall_mem_append, unsignZeros, binop.injEq]
          tauto
      | _ => simp [equal, unsignZeros]
  | .vector ty parts, b => by
      cases b with
      | vector ty' parts' =>
          simp only [equal, Bool.and_eq_true, decide_eq_true_eq, equalAll_iff parts parts',
            floats_vector, unsignZeros, vector.injEq]
          tauto
      | _ => simp [equal, unsignZeros]
  | .swizzle source mask, b => by
      cases b with
      | swizzle source' mask' =>
          simp only [equal, Bool.and_eq_true, decide_eq_true_eq, equal_iff source source',
            floats_swizzle, unsignZeros, swizzle.injEq]
          tauto
      | _ => simp [equal, unsignZeros]
  | .call f args, b => by
      cases b with
      | call f' args' =>
          simp only [equal, Bool.and_eq_true, decide_eq_true_eq, equalAll_iff args args',
            floats_call, unsignZeros, call.injEq]
          tauto
      | _ => simp [equal, unsignZeros]

theorem equalAll_iff : ∀ as bs : List Operand, equalAll as bs ↔
    (∀ x ∈ floatsAll as, ¬ x.isNaN) ∧ (∀ x ∈ floatsAll bs, ¬ x.isNaN) ∧
      unsignZerosAll as = unsignZerosAll bs
  | [], bs => by
      cases bs with
      | nil => simp [equalAll, floatsAll, visitsAll]
      | cons b bs => simp [equalAll, unsignZerosAll]
  | a :: as, bs => by
      cases bs with
      | nil => simp [equalAll, unsignZerosAll]
      | cons b bs =>
          simp only [equalAll, Bool.and_eq_true, equal_iff a b, equalAll_iff as bs, floatsAll_cons,
            List.forall_mem_append, unsignZerosAll, List.cons.injEq]
          tauto

end

end Operand

namespace Statement

theorem floats_block (body : List Statement) : (block body).floats = floatsAll body := rfl

theorem floats_assign (target source : Operand) :
    (assign target source).floats = target.floats ++ source.floats := List.filterMap_append

theorem floats_ifThen (condition : Operand) (body : Statement) :
    (ifThen condition body).floats = condition.floats ++ body.floats := List.filterMap_append

theorem floats_ifThenElse (condition : Operand) (body otherwise : Statement) :
    (ifThenElse condition body otherwise).floats =
      condition.floats ++ body.floats ++ otherwise.floats := by
  calc
    (ifThenElse condition body otherwise).floats
      = (condition.visits ++ body.visits).filterMap Visit.float? ++ otherwise.floats :=
        List.filterMap_append
    _ = condition.floats ++ body.floats ++ otherwise.floats :=
        congrArg (· ++ otherwise.floats) List.filterMap_append

theorem floatsAll_cons (s : Statement) (rest : List Statement) :
    floatsAll (s :: rest) = s.floats ++ floatsAll rest := List.filterMap_append

mutual

/-- Statements are equal by value if neither holds a NaN and they are the same but for the
signs of zeros. -/
theorem equal_iff : ∀ a b : Statement, a.equal b ↔
    (∀ x ∈ a.floats, ¬ x.isNaN) ∧ (∀ x ∈ b.floats, ¬ x.isNaN) ∧ a.unsignZeros = b.unsignZeros
  | .block body, b => by
      cases b with
      | block body' =>
          simp only [equal, equalAll_iff body body', floats_block, unsignZeros, block.injEq]
      | _ => simp [equal, unsignZeros]
  | .assign target source, b => by
      cases b with
      | assign target' source' =>
          simp only [equal, Bool.and_eq_true, target.equal_iff, source.equal_iff, floats_assign,
            List.forall_mem_append, unsignZeros, assign.injEq]
          tauto
      | _ => simp [equal, unsignZeros]
  | .ifThen condition body, b => by
      cases b with
      | ifThen condition' body' =>
          simp only [equal, Bool.and_eq_true, condition.equal_iff, equal_iff body body',
            floats_ifThen, List.forall_mem_append, unsignZeros, ifThen.injEq]
          tauto
      | _ => simp [equal, unsignZeros]
  | .ifThenElse condition body otherwise, b => by
      cases b with
      | ifThenElse condition' body' otherwise' =>
          simp only [equal, Bool.and_eq_true, condition.equal_iff, equal_iff body body',
            equal_iff otherwise otherwise', floats_ifThenElse, List.forall_mem_append, unsignZeros,
            ifThenElse.injEq]
          tauto
      | _ => simp [equal, unsignZeros]

theorem equalAll_iff : ∀ as bs : List Statement, equalAll as bs ↔
    (∀ x ∈ floatsAll as, ¬ x.isNaN) ∧ (∀ x ∈ floatsAll bs, ¬ x.isNaN) ∧
      unsignZerosAll as = unsignZerosAll bs
  | [], bs => by
      cases bs with
      | nil => simp [equalAll, floatsAll, visitsAll]
      | cons b bs => simp [equalAll, unsignZerosAll]
  | a :: as, bs => by
      cases bs with
      | nil => simp [equalAll, unsignZerosAll]
      | cons b bs =>
          simp only [equalAll, Bool.and_eq_true, equal_iff a b, equalAll_iff as bs, floatsAll_cons,
            List.forall_mem_append, unsignZerosAll, List.cons.injEq]
          tauto

end

end Statement

/-- How trees of one kind compare, given the comparison, the float literals of a tree and
the tree with all its zeros positive. -/
structure ComparesByValue {α : Type} (equal : α → α → Bool) (floats : α → List Binary32)
    (unsignZeros : α → α) : Prop where
  /-- Equal trees hold no NaN and are the same but for the signs of zeros. -/
  iff : ∀ a b, equal a b ↔ (∀ x ∈ floats a, ¬ x.isNaN) ∧ (∀ x ∈ floats b, ¬ x.isNaN) ∧
    unsignZeros a = unsignZeros b
  symm : ∀ a b, equal a b → equal b a
  trans : ∀ a b c, equal a b → equal b c → equal a c
  self_iff : ∀ a, equal a a ↔ ∀ x ∈ floats a, ¬ x.isNaN

/-- The laws of the comparison follow from what it compares. -/
theorem ComparesByValue.of_iff {α : Type} {equal : α → α → Bool} {floats : α → List Binary32}
    {unsignZeros : α → α}
    (h : ∀ a b, equal a b ↔ (∀ x ∈ floats a, ¬ x.isNaN) ∧ (∀ x ∈ floats b, ¬ x.isNaN) ∧
      unsignZeros a = unsignZeros b) : ComparesByValue equal floats unsignZeros where
  iff := h
  symm a b hab := by
    obtain ⟨ha, hb, hsame⟩ := (h a b).mp hab
    exact (h b a).mpr ⟨hb, ha, hsame.symm⟩
  trans a b c hab hbc := by
    obtain ⟨ha, -, hsame⟩ := (h a b).mp hab
    obtain ⟨-, hc, hsame'⟩ := (h b c).mp hbc
    exact (h a c).mpr ⟨ha, hc, hsame.trans hsame'⟩
  self_iff a := by
    rw [h]
    exact ⟨fun hself => hself.1, fun ha => ⟨ha, ha, rfl⟩⟩

end ShaderTree
