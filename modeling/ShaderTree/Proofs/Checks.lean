import Mathlib.Algebra.GroupWithZero.Nat
import Mathlib.Data.List.Basic
import ShaderTree.Proofs.Generation

/-!
# What the checks of a tree let through

A mask passes its check exactly if it selects: one to four letters, all from one set
of names, none beyond the components of the source.  The parts of a constructor pass
theirs if their components add up to those of its type, or if there is one part only.

A single part is not counted.  It may be a scalar, which fills all components, or have
as many components as the type, and then the constructor is well formed; but any other
count passes as well.  These are the only constructors of a tree with a source that are
not well formed.
-/

namespace ShaderTree

namespace Glsl

/-- A mask of one to four names of components, all from one set and all among the
first `count` of it. -/
def Selects (count : Nat) (mask : String) : Prop :=
  1 ≤ mask.length ∧ mask.length ≤ 4 ∧
    ∃ names ∈ ["xyzw", "rgba", "stpq"], ∀ c ∈ mask.toList, c ∈ names.toList.take count

instance (count : Nat) (mask : String) : Decidable (Selects count mask) :=
  decidable_of_iff (1 ≤ mask.length ∧ mask.length ≤ 4 ∧
      ["xyzw", "rgba", "stpq"].any fun names =>
        mask.toList.all fun c => (names.toList.take count).contains c)
    (by simp only [Selects, List.any_eq_true, List.all_eq_true, List.contains_iff_mem])

section Masks

variable {ty : Ty} {mask : String} {set : List Char} {c : Char}

/-- A letter is fine exactly if it names one of the components that are there. -/
theorem letterProblem?_eq_none_iff {count : Nat} :
    letterProblem? set count c = none ↔ c ∈ set.take count := by
  unfold letterProblem?
  split
  · next i hi =>
      have hmem : c ∈ set := List.isSome_idxOf?.mp (by simp [hi])
      have hindex : set.idxOf c = i := by grind
      rw [List.mem_take_iff_idxOf_lt hmem, hindex]
      simp
  · next hnone =>
      have hmem : c ∉ set := List.idxOf?_eq_none_iff.mp hnone
      simpa using fun h => hmem (List.mem_of_mem_take h)

/-- No letter belongs to two sets. -/
theorem componentSet?_eq_some (hset : set ∈ componentSets) (hc : c ∈ set) :
    componentSet? c = some set := by
  have hall : componentSets.all fun s => s.all fun d => componentSet? d == some s := by
    decide +kernel
  simpa using List.all_eq_true.mp (List.all_eq_true.mp hall set hset) c hc

theorem selects_iff {count : Nat} : Selects count mask ↔
    1 ≤ mask.length ∧ mask.length ≤ 4 ∧
      ∃ set ∈ componentSets, ∀ c ∈ mask.toList, c ∈ set.take count := by
  have hsets : componentSets = ["xyzw", "rgba", "stpq"].map String.toList := by decide +kernel
  unfold Selects
  rw [hsets]
  simp only [List.mem_map, exists_exists_and_eq_and]

/-- What is wrong with the letters of a mask: the first one fixes the set, and then every letter
is looked at. -/
def componentProblem? (count : Nat) (first : Char) (rest : List Char) : Option MaskProblem :=
  match componentSet? first with
  | none => some (.notAComponent first)
  | some set => (first :: rest).findSome? (letterProblem? set count)

theorem componentProblem?_eq_none_iff {first : Char} {rest : List Char} {count : Nat} :
    componentProblem? count first rest = none ↔
      ∃ set ∈ componentSets, ∀ c ∈ first :: rest, c ∈ set.take count := by
  unfold componentProblem?
  constructor
  · intro h
    split at h
    · cases h
    · next set hset =>
        refine ⟨set, List.mem_of_find?_eq_some hset, fun c hc => ?_⟩
        exact letterProblem?_eq_none_iff.mp (List.findSome?_eq_none_iff.mp h c hc)
  · rintro ⟨set, hset, hletters⟩
    have hfirst := List.mem_of_mem_take (hletters first List.mem_cons_self)
    rw [componentSet?_eq_some hset hfirst]
    exact List.findSome?_eq_none_iff.mpr fun c hc => letterProblem?_eq_none_iff.mpr (hletters c hc)

theorem maskProblem?_of_not_isSwizzleable (hty : ¬ ty.isSwizzleable) :
    maskProblem? ty mask = some .noComponents := by
  simp [maskProblem?, hty]

theorem maskProblem?_of_length (hty : ty.isSwizzleable)
    (hlength : ¬ (1 ≤ mask.length ∧ mask.length ≤ 4)) :
    maskProblem? ty mask = some (.length mask.length) := by
  have hfail : (mask.length = 0 || 4 < mask.length) = true := by
    simp only [Bool.or_eq_true, decide_eq_true_eq]
    omega
  rw [maskProblem?, if_neg (by simp [hty]), if_pos hfail]

theorem maskProblem?_of_cons {first : Char} {rest : List Char} (hty : ty.isSwizzleable)
    (hlength : 1 ≤ mask.length ∧ mask.length ≤ 4) (hmask : mask.toList = first :: rest) :
    maskProblem? ty mask = componentProblem? ty.elementCount first rest := by
  have hpass : ¬ (mask.length = 0 || 4 < mask.length) = true := by
    simp only [Bool.or_eq_true, decide_eq_true_eq]
    omega
  rw [maskProblem?, if_neg (by simp [hty]), if_neg hpass, hmask]
  rfl

theorem exists_cons_of_length (hlength : 1 ≤ mask.length) :
    ∃ first rest, mask.toList = first :: rest := by
  rw [← String.length_toList] at hlength
  exact List.exists_cons_of_length_pos hlength

/-- A mask passes exactly if the source has components and the mask selects some. -/
theorem maskProblem?_eq_none_iff :
    maskProblem? ty mask = none ↔ ty.isSwizzleable ∧ Selects ty.elementCount mask := by
  rw [selects_iff]
  by_cases hty : ty.isSwizzleable
  · by_cases hlength : 1 ≤ mask.length ∧ mask.length ≤ 4
    · obtain ⟨first, rest, hmask⟩ := exists_cons_of_length hlength.1
      rw [maskProblem?_of_cons hty hlength hmask, componentProblem?_eq_none_iff, hmask]
      simp [hty, hlength]
    · rw [maskProblem?_of_length hty hlength]
      exact iff_of_false (Option.some_ne_none _) fun h => hlength ⟨h.2.1, h.2.2.1⟩
  · rw [maskProblem?_of_not_isSwizzleable hty]
    exact iff_of_false (Option.some_ne_none _) fun h => hty h.1

theorem fault?_checkMask_eq_none_iff :
    fault? (checkMask ty mask) = none ↔ ty.isSwizzleable ∧ Selects ty.elementCount mask := by
  rw [← maskProblem?_eq_none_iff]
  unfold checkMask
  split
  · next h => exact iff_of_true rfl h
  · next h => exact iff_of_false (Option.some_ne_none _) (by simp [h])

end Masks

/-- The number of components that the parts of a constructor have in all. -/
def componentTotal (parts : List Operand) : Nat :=
  (parts.map fun part => part.valueTy.elementCount).sum

/-- The parts of a well-formed constructor have one component in all, which is repeated,
or as many as the type. -/
def Fills (ty : Ty) (parts : List Operand) : Prop :=
  componentTotal parts = 1 ∨ componentTotal parts = ty.elementCount

section Constructors

variable {ty : Ty} {parts : List Operand}

@[simp] theorem componentTotal_nil : componentTotal [] = 0 := rfl

@[simp] theorem componentTotal_cons (part : Operand) (parts : List Operand) :
    componentTotal (part :: parts) = part.valueTy.elementCount + componentTotal parts :=
  List.sum_cons

theorem length_le_componentTotal (parts : List Operand) :
    parts.length ≤ componentTotal parts := by
  induction parts with
  | nil => exact Nat.le_refl 0
  | cons part parts ih =>
      have hpart := part.valueTy.elementCount_pos
      rw [List.length_cons, componentTotal_cons]
      omega

/-- One part is let through whatever it is, several only if their components add up. -/
theorem fault?_checkParts_eq_none_iff :
    fault? (checkParts ty (parts.map Operand.valueTy)) = none ↔
      parts.length = 1 ∨ componentTotal parts = ty.elementCount := by
  have htotal :
      (parts.map Operand.valueTy).foldl (· + ·.elementCount) 0 = componentTotal parts := by
    rw [componentTotal, List.sum_eq_foldl_nat, List.foldl_map, List.foldl_map]
  rw [checkParts, htotal, List.length_map]
  split
  · next h => exact iff_of_true rfl h
  · next h => exact iff_of_false (Option.some_ne_none _) h

/-- What is let through is well formed unless it is a single part of another size. -/
theorem fills_iff_of_fault? (h : fault? (checkParts ty (parts.map Operand.valueTy)) = none) :
    Fills ty parts ↔ ∀ part, parts = [part] →
      part.valueTy.elementCount = 1 ∨ part.valueTy.elementCount = ty.elementCount := by
  constructor
  · rintro hfills part rfl
    simpa [Fills] using hfills
  · intro hsingle
    rcases fault?_checkParts_eq_none_iff.mp h with hlength | htotal
    · obtain ⟨part, rfl⟩ := List.length_eq_one_iff.mp hlength
      simpa [Fills] using hsingle part rfl
    · exact .inr htotal

/-- Well-formed constructors are let through. -/
theorem Fills.fault?_eq_none (h : Fills ty parts) :
    fault? (checkParts ty (parts.map Operand.valueTy)) = none := by
  rw [fault?_checkParts_eq_none_iff]
  refine h.imp_left fun hone => ?_
  have hlength := length_le_componentTotal parts
  cases parts with
  | nil => cases hone
  | cons part rest =>
      rw [List.length_cons] at hlength ⊢
      omega

theorem offence?_vector_eq_none_iff {stage : Stage} :
    Visit.offence? stage (.vector ty parts) = none ↔
      ty.glslName?.isSome ∧ fault? (checkParts ty (parts.map Operand.valueTy)) = none := by
  cases hname : ty.glslName? <;> simp [Visit.offence?, hname]

end Constructors

namespace Generator

/-- Every constructor in a tree with a source has a type that can be written, and is well
formed unless it has a single part with neither one component nor as many as its type. -/
theorem generate_fills_iff (g : Generator) (history : List Call) (root : Statement)
    (source : String) (h : ((g.serve history).generate root).value.1 = .ok source) (ty : Ty)
    (parts : List Operand) (hnode : Visit.vector ty parts ∈ root.visits) :
    ty.glslName?.isSome ∧
      (Fills ty parts ↔ ∀ part, parts = [part] →
        part.valueTy.elementCount = 1 ∨ part.valueTy.elementCount = ty.elementCount) := by
  obtain ⟨haccepted, -⟩ := generate_eq_ok_iff.mp h
  obtain ⟨hname, hcheck⟩ := offence?_vector_eq_none_iff.mp (haccepted.unbroken _ hnode)
  exact ⟨hname, fills_iff_of_fault? hcheck⟩

/-- A constructor of a product, of components of a call and of another constructor. -/
theorem generate_fills_iff_nested :
    let uv : Operand := .var (.varying ⟨"v_Tex", .vec2⟩)
    let color : Operand := .call .texture2D [.var (.uniform ⟨"u_Tex", .sampler⟩), uv]
    let inner : List Operand := [.swizzle color "a"]
    let outer : List Operand :=
      [.binop .mul (.float .one) uv, .swizzle (.vector .vec3 inner) "xz"]
    let root : Statement := .ifThen (.bool true) (.assign .out (.vector .vec4 outer))
    let g : Generator := { stage := .fragment, options := { dialect := .es } }
    let source :=
      "precision mediump float;\nprecision mediump int;\nprecision lowp sampler2D;\n" ++
        "precision lowp samplerCube;\nuniform sampler2D u_Tex;\nvarying vec2 v_Tex;\n" ++
        "void main() \x7bif (true) gl_FragColor = vec4((1.0*v_Tex)," ++
        "vec3(texture2D(u_Tex, v_Tex).a).xz);\x7d\n"
    ((g.serve [.reset]).generate root).value.1 = .ok source ∧
      Visit.vector .vec4 outer ∈ root.visits ∧ Visit.vector .vec3 inner ∈ root.visits ∧
      Fills .vec4 outer ∧ Fills .vec3 inner := by
  intro uv color inner outer root g source
  have hsource : ((g.serve [.reset]).generate root).value.1 = .ok source := by decide +kernel
  have houter : Visit.vector .vec4 outer ∈ root.visits := by
    simp [root, Statement.visits, Operand.visits]
  have hinner : Visit.vector .vec3 inner ∈ root.visits := by
    simp [root, outer, Statement.visits, Operand.visits, Operand.visitsAll]
  refine ⟨hsource, houter, hinner, ?_, ?_⟩
  · refine (generate_fills_iff g [.reset] root source hsource .vec4 outer houter).2.mpr ?_
    intro part hpart
    exact absurd (congrArg List.length hpart) (by simp [outer])
  · refine (generate_fills_iff g [.reset] root source hsource .vec3 inner hinner).2.mpr ?_
    intro part hpart
    rw [← List.head_eq_of_cons_eq hpart]
    exact .inl rfl

/-- A position of two components that passes for a constructor of four. -/
theorem generate_admits_lone_part :
    let parts : List Operand := [.var (.attribute ⟨"a_Pos", .vec2, false⟩)]
    let root : Statement := .assign .out (.vector .vec4 parts)
    let g : Generator := { stage := .vertex, options := { dialect := .es } }
    let source :=
      "precision mediump float;\nprecision mediump int;\nprecision lowp sampler2D;\n" ++
        "precision lowp samplerCube;\nattribute vec2 a_Pos;\n" ++
        "void main() \x7bgl_Position = vec4(a_Pos);\x7d\n"
    (g.generate root).value.1 = .ok source ∧ Visit.vector .vec4 parts ∈ root.visits ∧
      ¬ Fills .vec4 parts := by
  intro parts root g source
  have hsource : (g.generate root).value.1 = .ok source := by decide +kernel
  have hnode : Visit.vector .vec4 parts ∈ root.visits := by
    simp [root, Statement.visits, Operand.visits]
  refine ⟨hsource, hnode, ?_⟩
  have htotal : componentTotal parts = 2 := rfl
  rw [Fills, htotal]
  decide

end Generator

end Glsl

end ShaderTree
