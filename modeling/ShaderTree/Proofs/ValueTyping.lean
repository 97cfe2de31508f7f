import Mathlib.Data.List.Forall2
import ShaderTree.Proofs.Checks
import ShaderTree.Proofs.ViewSource

/-!
# Types of values by rules

`HasTy` gives types to operands as the shading language does, by one rule for each way
to form an operand.  Types are those that a shader sees, so four bytes are a vector of
four floats.  Not every operand has a type: both sides of an operation must go
together, a mask must select from its source, and the parts of a constructor must fill
it.

Where there is a type, it is the one that is computed, and no check of a node with
parts fails: what may still be wrong with the operand is wrong with one of its leaves.
-/

namespace ShaderTree

open Glsl

/-- The float with one component and the vectors. -/
def Ty.floats : List Ty := [.float, .vec2, .vec3, .vec4]

/-- The types of two values that can be combined, and the type of the result. -/
inductive BinOp.Yields (op : BinOp) : Ty → Ty → Ty → Prop where
  | alike (ty : Ty) : op.Yields ty ty ty
  | scalarLeft {ty : Ty} (hty : ty ∈ [.vec2, .vec3, .vec4, .mat4]) : op.Yields .float ty ty
  | scalarRight {ty : Ty} (hty : ty ∈ [.vec2, .vec3, .vec4, .mat4]) : op.Yields ty .float ty
  | matrixVector (hop : op = .mul) : op.Yields .mat4 .vec4 .vec4
  | vectorMatrix (hop : op = .mul) : op.Yields .vec4 .mat4 .vec4

/-- The types of the arguments of a call, and the type of the result. -/
inductive Builtin.Yields (f : Builtin) : List Ty → Ty → Prop where
  | lookup (args : List Ty) (hf : f = .texture2D) : f.Yields args .vec4
  | last (args : List Ty) (ty : Ty) (hf : f = .step ∨ f = .smoothStep) : f.Yields (args ++ [ty]) ty
  | first (ty : Ty) (args : List Ty) (hf : f ≠ .texture2D ∧ f ≠ .step ∧ f ≠ .smoothStep) :
      f.Yields (ty :: args) ty
  | bare (hf : f ≠ .texture2D) : f.Yields [] .float

/-- The type that a shader gives to an operand. -/
inductive HasTy : Operand → Ty → Prop where
  | var (v : Variable) : HasTy (.var v) v.ty.shaderView
  | int (n : Int32) : HasTy (.int n) .int
  | float (x : Binary32) : HasTy (.float x) .float
  | bool (b : Bool) : HasTy (.bool b) .bool
  | binop {op : BinOp} {left right : Operand} {leftTy rightTy ty : Ty} (hleft : HasTy left leftTy)
      (hright : HasTy right rightTy) (hty : op.Yields leftTy rightTy ty) :
      HasTy (.binop op left right) ty
  | vector {ty : Ty} {parts : List Operand} {tys : List Ty} (hname : ty.glslName?.isSome)
      (hparts : List.Forall₂ HasTy parts tys)
      (hcount : (tys.map Ty.elementCount).sum = 1 ∨
        (tys.map Ty.elementCount).sum = ty.elementCount) :
      HasTy (.vector ty parts) ty.shaderView
  | swizzle {source : Operand} {mask : String} {sourceTy ty : Ty} (hsource : HasTy source sourceTy)
      (hfloat : sourceTy ∈ Ty.floats) (hmask : Selects sourceTy.elementCount mask)
      (hty : ty ∈ Ty.floats) (hcount : ty.elementCount = mask.length) :
      HasTy (.swizzle source mask) ty
  | call {f : Builtin} {args : List Operand} {tys : List Ty} {ty : Ty}
      (hargs : List.Forall₂ HasTy args tys) (hty : f.Yields tys ty) : HasTy (.call f args) ty

section Rules

variable {ty : Ty}

theorem BinOp.Yields.valueTy_eq {op : BinOp} {left right : Ty} (h : op.Yields left right ty) :
    op.valueTy left right = ty := by
  cases h with
  | alike => exact if_pos rfl
  | scalarLeft hty =>
      simp only [List.mem_cons, List.not_mem_nil, or_false] at hty
      rcases hty with rfl | rfl | rfl | rfl <;> cases op <;> rfl
  | scalarRight hty =>
      simp only [List.mem_cons, List.not_mem_nil, or_false] at hty
      rcases hty with rfl | rfl | rfl | rfl <;> cases op <;> rfl
  | matrixVector hop => rw [hop]; rfl
  | vectorMatrix hop => rw [hop]; rfl

theorem Builtin.Yields.resultTy_eq {f : Builtin} {args : List Ty} (h : f.Yields args ty) :
    f.resultTy args = ty := by
  cases h with
  | lookup _ hf => rw [hf]; rfl
  | last args _ hf => rcases hf with rfl | rfl <;> simp [resultTy]
  | first _ _ hf =>
      unfold resultTy
      split
      · exact absurd rfl hf.1
      · exact absurd rfl hf.2.1
      · exact absurd rfl hf.2.2
      · rfl
  | bare hf =>
      unfold resultTy
      split
      · exact absurd rfl hf
      all_goals rfl

/-- A float type is known by its number of components, can be selected from, and is
what a shader sees of it. -/
theorem Ty.of_mem_floats (h : ty ∈ Ty.floats) :
    Ty.floatVector? ty.elementCount = some ty ∧ ty.isSwizzleable ∧ ty.shaderView = ty := by
  simp only [Ty.floats, List.mem_cons, List.not_mem_nil, or_false] at h
  rcases h with rfl | rfl | rfl | rfl <;> exact ⟨rfl, rfl, rfl⟩

end Rules

namespace Operand

mutual

/-- The computed type is the one given by the rules. -/
theorem shaderView_valueTy : ∀ (o : Operand) {ty : Ty}, HasTy o ty → o.valueTy.shaderView = ty
  | .var v, _, h => by cases h; rfl
  | .int n, _, h => by cases h; rfl
  | .float x, _, h => by cases h; rfl
  | .bool b, _, h => by cases h; rfl
  | .binop op left right, ty, .binop hleft hright hty => by
      rw [valueTy, ← op.valueTy_shaderView, shaderView_valueTy left hleft,
        shaderView_valueTy right hright, hty.valueTy_eq]
  | .vector ty parts, _, h => by cases h; rfl
  | .swizzle source mask, ty, .swizzle _ _ _ hty hcount => by
      obtain ⟨hvector, -, hview⟩ := Ty.of_mem_floats hty
      rw [valueTy, ← hcount, hvector]
      exact hview
  | .call f args, ty, .call hargs hty => by
      rw [valueTy, ← f.resultTy_shaderView, map_shaderView_valueTys args hargs, hty.resultTy_eq]

theorem map_shaderView_valueTys : ∀ (os : List Operand) {tys : List Ty},
    List.Forall₂ HasTy os tys → (valueTys os).map Ty.shaderView = tys
  | [], _, h => by cases h; rfl
  | o :: rest, _, .cons ho hrest => by
      rw [valueTys, List.map_cons, shaderView_valueTy o ho, map_shaderView_valueTys rest hrest]

end

end Operand

/-- Nothing is wrong with the visits that are not to leaves. -/
def OnlyLeavesOffend (stage : Stage) (vs : List Visit) : Prop :=
  ∀ v ∈ vs, v.isLeaf = false → v.offence? stage = none

section Nodes

variable {stage : Stage} {v : Visit} {vs ws : List Visit}

theorem OnlyLeavesOffend.cons (hv : v.isLeaf = false → v.offence? stage = none)
    (h : OnlyLeavesOffend stage vs) : OnlyLeavesOffend stage (v :: vs) :=
  List.forall_mem_cons.mpr ⟨hv, h⟩

theorem OnlyLeavesOffend.append (hvs : OnlyLeavesOffend stage vs)
    (hws : OnlyLeavesOffend stage ws) : OnlyLeavesOffend stage (vs ++ ws) :=
  List.forall_mem_append.mpr ⟨hvs, hws⟩

theorem onlyLeavesOffend_leaf (hv : v.isLeaf) : OnlyLeavesOffend stage [v] :=
  .cons (fun h => absurd hv (by simp [h])) (List.forall_mem_nil _)

/-- The parts of a constructor that has a type fill it. -/
theorem fills_of_forall₂ {ty : Ty} {parts : List Operand} {tys : List Ty}
    (hparts : List.Forall₂ HasTy parts tys)
    (hcount : (tys.map Ty.elementCount).sum = 1 ∨
      (tys.map Ty.elementCount).sum = ty.elementCount) : Fills ty parts := by
  have htotal : (tys.map Ty.elementCount).sum = componentTotal parts := by
    rw [← Operand.map_shaderView_valueTys parts hparts, Operand.valueTys_eq_map, List.map_map,
      List.map_map, componentTotal]
    exact congrArg List.sum (List.map_congr_left fun part _ =>
      part.valueTy.elementCount_shaderView)
  rwa [htotal] at hcount

/-- A mask that selects from the type of its source passes its check. -/
theorem fault?_checkMask_of_hasTy {source : Operand} {mask : String} {ty : Ty}
    (hsource : HasTy source ty) (hfloat : ty ∈ Ty.floats)
    (hmask : Selects ty.elementCount mask) : fault? (checkMask source.valueTy mask) = none := by
  have hview := source.shaderView_valueTy hsource
  rw [fault?_checkMask_eq_none_iff, ← Ty.isSwizzleable_shaderView, ← Ty.elementCount_shaderView,
    hview]
  exact ⟨(Ty.of_mem_floats hfloat).2.1, hmask⟩

end Nodes

namespace Operand

mutual

/-- In an operand that has a type, every check of a node with parts succeeds. -/
theorem onlyLeavesOffend (stage : Stage) : ∀ (o : Operand) {ty : Ty}, HasTy o ty →
    OnlyLeavesOffend stage o.visits
  | .var v, _, _ => by
      have hleaf : (Visit.ofVariable v).isLeaf := by cases v <;> rfl
      exact .cons (fun _ => rfl) (.cons (fun _ => rfl) (onlyLeavesOffend_leaf hleaf))
  | .int n, _, _ => .cons (fun _ => rfl) (onlyLeavesOffend_leaf rfl)
  | .float x, _, _ => .cons (fun _ => rfl) (onlyLeavesOffend_leaf rfl)
  | .bool b, _, _ => .cons (fun _ => rfl) (onlyLeavesOffend_leaf rfl)
  | .binop op left right, _, .binop hleft hright _ => by
      have hparts := (onlyLeavesOffend stage left hleft).append (onlyLeavesOffend stage right hright)
      exact .cons (fun _ => rfl) (.cons (fun _ => rfl) hparts)
  | .vector ty parts, _, .vector hname hparts hcount => by
      have hcheck := (fills_of_forall₂ hparts hcount).fault?_eq_none
      exact .cons (fun _ => rfl) (.cons (fun _ => offence?_vector_eq_none_iff.mpr ⟨hname, hcheck⟩)
        (onlyLeavesOffend_all stage parts hparts))
  | .swizzle source mask, _, .swizzle hsource hfloat hmask _ _ =>
      .cons (fun _ => rfl) (.cons (fun _ => fault?_checkMask_of_hasTy hsource hfloat hmask)
        (onlyLeavesOffend stage source hsource))
  | .call f args, _, .call hargs _ =>
      .cons (fun _ => rfl) (.cons (fun _ => rfl) (onlyLeavesOffend_all stage args hargs))

theorem onlyLeavesOffend_all (stage : Stage) : ∀ (os : List Operand) {tys : List Ty},
    List.Forall₂ HasTy os tys → OnlyLeavesOffend stage (visitsAll os)
  | [], _, _ => List.forall_mem_nil _
  | o :: rest, _, .cons ho hrest =>
      (onlyLeavesOffend stage o ho).append (onlyLeavesOffend_all stage rest hrest)

end

end Operand

/-- What can be wrong with a leaf. -/
theorem offence?_of_isLeaf {stage : Stage} {fault : Fault} : ∀ v : Visit, v.isLeaf →
    v.offence? stage = some fault →
      (stage = .fragment ∧ ∃ a, v = .attribute a ∧ fault = .attributeInFragment a.name) ∨
        ∃ x, v = .float x ∧ (x.isNaN ∨ x.isInfinite) ∧ fault = .nonFinite x
  | .attribute a, _, h => by
      simp only [Visit.offence?] at h
      split at h
      · next hstage => exact .inl ⟨hstage, a, rfl, (Option.some.inj h).symm⟩
      · cases h
  | .float x, _, h => by
      simp only [Visit.offence?] at h
      split at h
      · next hx => exact .inr ⟨x, rfl, hx, (Option.some.inj h).symm⟩
      · cases h
  | .varying _, _, h | .uniform _, _, h | .temp _, _, h | .output, _, h | .int _, _, h
  | .bool _, _, h => by cases h
  | .statement _, hv, _ | .block _, hv, _ | .assign _ _, hv, _ | .conditional _ _, hv, _
  | .operand _, hv, _ | .variable _, hv, _ | .binop _ _ _, hv, _ | .vector _ _, hv, _
  | .swizzle _ _, hv, _ | .call _ _, hv, _ => by cases hv

/-- Where the rules give a type, it is the one that is computed, and an operand is written
out unless it holds an attribute in the fragment stage or a literal that is not finite: no
check that rests on types fails. -/
theorem HasTy.computed_and_passes {o : Operand} {ty : Ty} (h : HasTy o ty) :
    o.valueTy.shaderView = ty ∧
      ∀ stage fault, (o.draft stage).fault = some fault →
        (stage = .fragment ∧ ∃ a, Visit.attribute a ∈ o.visits ∧
            fault = .attributeInFragment a.name) ∨
          ∃ x, Visit.float x ∈ o.visits ∧ (x.isNaN ∨ x.isInfinite) ∧ fault = .nonFinite x := by
  refine ⟨o.shaderView_valueTy h, fun stage fault hfault => ?_⟩
  rw [(o.draft_renders stage).fault] at hfault
  obtain ⟨v, hv, hoffence⟩ := List.exists_of_findSome?_eq_some hfault
  have hleaf : v.isLeaf := by
    by_contra hnode
    rw [o.onlyLeavesOffend stage h v hv (by simpa using hnode)] at hoffence
    cases hoffence
  rcases offence?_of_isLeaf v hleaf hoffence with ⟨hstage, a, rfl, hname⟩ | ⟨x, rfl, hx, hvalue⟩
  · exact .inl ⟨hstage, a, hv, hname⟩
  · exact .inr ⟨x, hv, hx, hvalue⟩

/-- Bytes times a matrix, a mask on a mask, a scalar times a vector and a repeated scalar,
as arguments of one call. -/
theorem HasTy.computed_and_passes_mix :
    let color : Operand := .var (.attribute ⟨"a_Color", .byte4, true⟩)
    let tinted : Operand := .binop .mul color (.var (.uniform ⟨"u_Tint", .mat4⟩))
    let o : Operand := .call .mix
      [.swizzle (.swizzle tinted "bgra") "zyx", .vector .vec3 [.float .one],
        .binop .sub (.float .one) (.swizzle color "rrr")]
    HasTy o .vec3 ∧ o.valueTy.shaderView = .vec3 ∧
      ∀ stage fault, (o.draft stage).fault = some fault →
        stage = .fragment ∧ fault = .attributeInFragment "a_Color" := by
  intro color tinted o
  have hcolor : HasTy color .vec4 := .var _
  have htinted : HasTy tinted .vec4 := .binop hcolor (.var _) (.vectorMatrix rfl)
  have hmask : HasTy (.swizzle tinted "bgra") .vec4 :=
    .swizzle htinted (by decide) (by decide +kernel) (by decide) rfl
  have hmasks : HasTy (.swizzle (.swizzle tinted "bgra") "zyx") .vec3 :=
    .swizzle hmask (by decide) (by decide +kernel) (by decide) rfl
  have hrepeated : HasTy (.vector .vec3 [.float .one]) .vec3 :=
    .vector rfl (.cons (.float .one) .nil) (.inl rfl)
  have hscaled : HasTy (.binop .sub (.float .one) (.swizzle color "rrr")) .vec3 :=
    .binop (.float .one)
      (.swizzle hcolor (by decide) (by decide +kernel) (by decide) rfl) (.scalarLeft (by decide))
  have ho : HasTy o .vec3 :=
    .call (.cons hmasks (.cons hrepeated (.cons hscaled .nil))) (.first _ _ (by decide))
  obtain ⟨hview, hfaults⟩ := ho.computed_and_passes
  refine ⟨ho, hview, fun stage fault hfault => ?_⟩
  rcases hfaults stage fault hfault with ⟨hstage, a, ha, hname⟩ | ⟨x, hx, hbad, -⟩
  · have hattribute : a = ⟨"a_Color", .byte4, true⟩ := by
      simpa [o, tinted, color, Operand.visits, Operand.visitsAll, Visit.ofVariable] using ha
    exact ⟨hstage, hname.trans (by rw [hattribute])⟩
  · have hone : x = .one := by
      simpa [o, tinted, color, Operand.visits, Operand.visitsAll, Visit.ofVariable] using hx
    exact absurd (hone ▸ hbad) (by decide)

end ShaderTree
