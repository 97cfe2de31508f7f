import ShaderTree.Proofs.ValueTyping

/-!
# Where the two types of an operand agree

The coarse type of an operand follows one of its parts and looks at nothing else; the type
of its value also sees what happens on the way.  The two part where a value changes its
shape: where a mask selects components, where a scalar meets a vector, where a matrix is
multiplied by a vector.

`PlainTy` gives types by rules that know nothing of this.  Both sides of an operation have
one type, and no rule is for masks.  An operand without masks, in which the values on both
sides of every operation have one type, has a type by these rules, and both computed types
are that one.
-/

namespace ShaderTree

/-- Types by rules under which no value changes its shape. -/
inductive PlainTy : Operand → Ty → Prop where
  | var (v : Variable) : PlainTy (.var v) v.ty
  | int (n : Int32) : PlainTy (.int n) .int
  | float (x : Binary32) : PlainTy (.float x) .float
  | bool (b : Bool) : PlainTy (.bool b) .bool
  | binop {op : BinOp} {left right : Operand} {ty : Ty} (hleft : PlainTy left ty)
      (hright : PlainTy right ty) : PlainTy (.binop op left right) ty
  | vector {ty : Ty} {parts : List Operand} {tys : List Ty}
      (hparts : List.Forall₂ PlainTy parts tys) : PlainTy (.vector ty parts) ty
  | call {f : Builtin} {args : List Operand} {tys : List Ty} {ty : Ty}
      (hargs : List.Forall₂ PlainTy args tys) (hty : f.Yields tys ty) : PlainTy (.call f args) ty

/-- None of the visits is to a mask, and the values on both sides of every operation have one
type. -/
structure Unconverted (vs : List Visit) : Prop where
  unmasked : ∀ source mask, Visit.swizzle source mask ∉ vs
  sides : ∀ op left right, Visit.binop op left right ∈ vs → left.valueTy = right.valueTy

theorem Unconverted.mono {vs ws : List Visit} (h : Unconverted vs) (hsubset : ws ⊆ vs) :
    Unconverted ws where
  unmasked source mask hmem := h.unmasked source mask (hsubset hmem)
  sides op left right hmem := h.sides op left right (hsubset hmem)

section Calls

variable {f : Builtin}

theorem Builtin.yields_getLast? (hf : f = .step ∨ f = .smoothStep) (args : List Ty) :
    f.Yields args (args.getLast?.getD .float) := by
  rcases args.eq_nil_or_concat with rfl | ⟨before, ty, rfl⟩
  · refine .bare ?_
    rcases hf with rfl | rfl <;> decide
  · rw [List.concat_eq_append, List.getLast?_concat, Option.getD_some]
    exact .last before ty hf

theorem Builtin.yields_head? (hf : f ≠ .texture2D ∧ f ≠ .step ∧ f ≠ .smoothStep)
    (args : List Ty) : f.Yields args (args.head?.getD .float) := by
  cases args with
  | nil => exact .bare hf.1
  | cons ty args => exact .first ty args hf

/-- Whatever the arguments, a call has a type. -/
theorem Builtin.yields_resultTy (f : Builtin) (args : List Ty) :
    f.Yields args (f.resultTy args) := by
  unfold resultTy
  split
  · exact .lookup args rfl
  · exact yields_getLast? (.inl rfl) args
  · exact yields_getLast? (.inr rfl) args
  · next hlookup hstep hsmooth => exact yields_head? ⟨hlookup, hstep, hsmooth⟩ args

end Calls

namespace Operand

mutual

/-- Where nothing is converted, the type of the value is given by the rules. -/
theorem plainTy_valueTy : ∀ o : Operand, Unconverted o.visits → PlainTy o o.valueTy
  | .var v, _ => .var v
  | .int n, _ => .int n
  | .float x, _ => .float x
  | .bool b, _ => .bool b
  | .binop op left right, h => by
      have hsides : left.valueTy = right.valueTy :=
        h.sides op left right (by simp [visits])
      have hleft := plainTy_valueTy left (h.mono fun v hv => by simp [visits, hv])
      have hright := plainTy_valueTy right (h.mono fun v hv => by simp [visits, hv])
      -- between values of one type nothing is widened or multiplied out
      rw [valueTy, ← hsides, (BinOp.Yields.alike left.valueTy).valueTy_eq]
      exact .binop hleft (hsides ▸ hright)
  | .vector ty parts, h =>
      .vector (forall₂_plainTy parts (h.mono fun v hv => by simp [visits, hv]))
  | .swizzle source mask, h => absurd (by simp [visits]) (h.unmasked source mask)
  | .call f args, h =>
      .call (forall₂_plainTy args (h.mono fun v hv => by simp [visits, hv]))
        (f.yields_resultTy (valueTys args))

theorem forall₂_plainTy : ∀ os : List Operand, Unconverted (visitsAll os) →
    List.Forall₂ PlainTy os (valueTys os)
  | [], _ => .nil
  | o :: rest, h =>
      .cons (plainTy_valueTy o (h.mono fun v hv => by simp [visitsAll, hv]))
        (forall₂_plainTy rest (h.mono fun v hv => by simp [visitsAll, hv]))

end

mutual

/-- The coarse type is the only one that the rules give. -/
theorem ty_eq_of_plainTy : ∀ (o : Operand) {ty : Ty}, PlainTy o ty → o.ty = ty
  | .var v, _, h => by cases h; rfl
  | .int n, _, h => by cases h; rfl
  | .float x, _, h => by cases h; rfl
  | .bool b, _, h => by cases h; rfl
  | .binop op left right, _, .binop hleft _ => ty_eq_of_plainTy left hleft
  | .vector ty parts, _, h => by cases h; rfl
  | .call f args, _, .call hargs hty => by
      rw [Operand.ty, tys_eq_of_forall₂ args hargs, hty.resultTy_eq]

theorem tys_eq_of_forall₂ : ∀ (os : List Operand) {types : List Ty},
    List.Forall₂ PlainTy os types → tys os = types
  | [], _, h => by cases h; rfl
  | o :: rest, _, .cons ho hrest => by
      rw [tys, ty_eq_of_plainTy o ho, tys_eq_of_forall₂ rest hrest]

end

/-- In an operand without masks, in which the values on both sides of every operation have one
type, the type of the value and the coarse type are one, and it is the type by the rules. -/
theorem valueTy_eq_ty_of_unconverted (o : Operand)
    (hmask : ∀ source mask, Visit.swizzle source mask ∉ o.visits)
    (hsides : ∀ op left right, Visit.binop op left right ∈ o.visits →
      left.valueTy = right.valueTy) : o.valueTy = o.ty ∧ PlainTy o o.ty := by
  have hplain := o.plainTy_valueTy ⟨hmask, hsides⟩
  have hty := o.ty_eq_of_plainTy hplain
  exact ⟨hty.symm, hty ▸ hplain⟩

/-- A blend of a product and a difference of colors that are looked up; inside are a step, which
follows its last argument, and a call without arguments. -/
theorem valueTy_eq_ty_of_unconverted_blend :
    let uv : Operand := .var (.varying ⟨"v_Tex", .vec2⟩)
    let color : Operand := .call .texture2D [.var (.uniform ⟨"u_Tex", .sampler⟩), uv]
    let edge : Operand := .call .smoothStep [.float .one, .call .sin [], .binop .add uv uv]
    let o : Operand := .call .mix
      [.binop .mul color (.vector .vec4 [edge, uv]), .binop .sub color color, .float .one]
    (∀ source mask, Visit.swizzle source mask ∉ o.visits) ∧
      (∀ op left right, Visit.binop op left right ∈ o.visits → left.valueTy = right.valueTy) ∧
      o.valueTy = o.ty ∧ PlainTy o .vec4 := by
  intro uv color edge o
  have hmask : ∀ source mask, Visit.swizzle source mask ∉ o.visits := by
    simp [o, edge, color, uv, visits, visitsAll, Visit.ofVariable]
  have hsides : ∀ op left right, Visit.binop op left right ∈ o.visits →
      left.valueTy = right.valueTy := by
    intro op left right hmem
    simp only [o, edge, color, uv, visits, visitsAll, Visit.ofVariable, List.mem_cons,
      List.mem_append, List.not_mem_nil, reduceCtorEq, Visit.binop.injEq, false_or, or_false] at hmem
    rcases hmem with (⟨-, rfl, rfl⟩ | ⟨-, rfl, rfl⟩) | ⟨-, rfl, rfl⟩ <;> rfl
  exact ⟨hmask, hsides, valueTy_eq_ty_of_unconverted o hmask hsides⟩

end Operand

end ShaderTree
