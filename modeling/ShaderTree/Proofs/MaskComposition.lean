import ShaderTree.Proofs.Checks

/-!
# Masks on masks

A mask may be applied to what another mask has selected.  It is then checked against
the number of letters below it and not against the source, and its letters may come from
another set of names.

`select?` says what a mask selects from any list.  Applied to the components of a value it
gives the components of the swizzle; applied to the letters of a mask it gives the mask
that selects the same in one step.  So a chain of masks that all pass their checks is one
mask on the source, which passes its check as well.
-/

namespace ShaderTree

namespace Glsl

variable {α : Type}

/-- The place of a letter within the set of names to which it belongs. -/
def componentIndex? (c : Char) : Option Nat := (componentSet? c).bind (·.idxOf? c)

/-- What a mask selects from a list; nothing if a letter stands for no place of it. -/
def select? (mask : String) (components : List α) : Option (List α) :=
  mask.toList.mapM fun c => (componentIndex? c).bind (components[·]?)

/-- What a chain of masks selects, each from the selection of the one before it. -/
def selectAll? : List String → List α → Option (List α)
  | [], components => some components
  | mask :: masks, components => (select? mask components).bind (selectAll? masks)

end Glsl

namespace Operand

open Glsl

/-- An operand with a chain of masks, of which the first is applied first. -/
def swizzleAll (source : Operand) (masks : List String) : Operand := masks.foldl .swizzle source

/-- Every mask of a chain passes its check against the operand before it. -/
def AcceptsAll : Operand → List String → Prop
  | _, [] => True
  | source, mask :: masks =>
    checkMask source.valueTy mask = .ok () ∧ AcceptsAll (.swizzle source mask) masks

end Operand

section MapM

variable {α β γ : Type} {l : List α}

theorem exists_mapM_eq_some {f : α → Option β} {p : β → Prop}
    (h : ∀ a ∈ l, ∃ b, f a = some b ∧ p b) :
    ∃ bs, l.mapM f = some bs ∧ bs.length = l.length ∧ ∀ b ∈ bs, p b := by
  induction l with
  | nil => exact ⟨[], rfl, rfl, List.forall_mem_nil _⟩
  | cons a l ih =>
      obtain ⟨⟨b, hb, hp⟩, hl⟩ := List.forall_mem_cons.mp h
      obtain ⟨bs, hbs, hlength, hall⟩ := ih hl
      refine ⟨b :: bs, ?_, congrArg Nat.succ hlength, List.forall_mem_cons.mpr ⟨hp, hall⟩⟩
      simp [List.mapM_cons, hb, hbs]

theorem getElem?_of_mapM_eq_some {f : α → Option β} {bs : List β} (h : l.mapM f = some bs)
    (i : Nat) : bs[i]? = (l[i]?).bind f := by
  induction l generalizing bs i with
  | nil =>
      obtain rfl : [] = bs := Option.some.inj h
      rfl
  | cons a l ih =>
      simp only [List.mapM_cons, Option.bind_eq_bind, Option.pure_def, Option.bind_eq_some_iff,
        Option.some.injEq] at h
      obtain ⟨b, hb, bs, hbs, rfl⟩ := h
      cases i with
      | zero => simp [hb]
      | succ i => simpa using ih hbs i

/-- Two passes over a list are one. -/
theorem mapM_bind_eq (f : α → Option β) (g : β → Option γ) :
    (l.mapM fun a => (f a).bind g) = (l.mapM f).bind fun bs => bs.mapM g := by
  induction l with
  | nil => rfl
  | cons a l ih =>
      simp only [List.mapM_cons, ih]
      cases hf : f a with
      | none => rfl
      | some b =>
        cases hl : l.mapM f with
        | none => cases hg : g b <;> simp
        | some bs => simp [List.mapM_cons]

end MapM

namespace Glsl

section Selection

variable {α : Type} {mask next : String} {ty : Ty}

theorem checkMask_eq_ok_iff :
    checkMask ty mask = .ok () ↔ ty.isSwizzleable ∧ Selects ty.elementCount mask := by
  rw [← fault?_checkMask_eq_none_iff]
  cases checkMask ty mask <;> simp [fault?]

/-- The letters for the first components stand for the first places. -/
theorem exists_componentIndex? {set : List Char} {count : Nat} {c : Char}
    (hset : set ∈ componentSets) (hc : c ∈ set.take count) :
    ∃ i, componentIndex? c = some i ∧ i < count := by
  have hfine := letterProblem?_eq_none_iff.mpr hc
  have hset := componentSet?_eq_some hset (List.mem_of_mem_take hc)
  unfold letterProblem? at hfine
  split at hfine
  · next i hi =>
      refine ⟨i, by rw [componentIndex?, hset, Option.bind_some, hi], ?_⟩
      by_contra hout
      simp [hout] at hfine
  · cases hfine

/-- A mask that fits a list selects one element of it for each letter. -/
theorem Selects.exists_select? {l : List α} (h : Selects l.length mask) :
    ∃ selected, select? mask l = some selected ∧ selected.length = mask.length ∧
      ∀ a ∈ selected, a ∈ l := by
  obtain ⟨-, -, set, hset, hletters⟩ := selects_iff.mp h
  rw [← String.length_toList]
  refine exists_mapM_eq_some fun c hc => ?_
  obtain ⟨i, hi, hlt⟩ := exists_componentIndex? hset (hletters c hc)
  refine ⟨l[i], ?_, List.getElem_mem hlt⟩
  rw [hi]
  exact List.getElem?_eq_getElem hlt

/-- Letters out of a mask that fits make a mask that fits. -/
theorem Selects.of_subset {count : Nat} {letters : List Char} (h : Selects count mask)
    (hpos : 1 ≤ letters.length) (hmax : letters.length ≤ 4)
    (hsubset : ∀ c ∈ letters, c ∈ mask.toList) : Selects count (String.ofList letters) := by
  obtain ⟨-, -, names, hnames, hletters⟩ := h
  refine ⟨by rwa [String.length_ofList], by rwa [String.length_ofList], names, hnames, ?_⟩
  rw [String.toList_ofList]
  exact fun c hc => hletters c (hsubset c hc)

/-- Letters out of a mask that passes belong to the set of names of that mask. -/
theorem exists_names_of_checkMask {letters : List Char} (h : checkMask ty mask = .ok ())
    (hsubset : ∀ c ∈ letters, c ∈ mask.toList) :
    ∃ set ∈ componentSets, (∀ c ∈ mask.toList, c ∈ set) ∧ ∀ c ∈ letters, c ∈ set := by
  obtain ⟨-, -, set, hset, htake⟩ := selects_iff.mp (checkMask_eq_ok_iff.mp h).2
  have hnames : ∀ c ∈ mask.toList, c ∈ set := fun c hc => List.mem_of_mem_take (htake c hc)
  exact ⟨set, hset, hnames, fun c hc => hnames c (hsubset c hc)⟩

/-- Selecting from a selection is selecting by the letters of the first mask that the second
one selects. -/
theorem select?_of_select? {components selected : List α}
    (h : select? mask components = some selected) :
    select? next selected =
      (select? next mask.toList).bind fun letters =>
        select? (String.ofList letters) components := by
  have hplace : ∀ c, (componentIndex? c).bind (selected[·]?) =
      ((componentIndex? c).bind (mask.toList[·]?)).bind fun d =>
        (componentIndex? d).bind (components[·]?) := by
    intro c
    rw [Option.bind_assoc]
    simp only [getElem?_of_mapM_eq_some h]
  simp only [select?, hplace, mapM_bind_eq, String.toList_ofList]

end Selection

end Glsl

namespace Operand

open Glsl

section Chains

variable {source other : Operand} {mask next : String} {masks : List String}

/-- A selection of one to four components is a float vector of that size. -/
theorem valueTy_swizzle (source other : Operand) (mask next : String) (hpos : 1 ≤ mask.length)
    (hmax : mask.length ≤ 4) (hlength : next.length = mask.length) :
    (swizzle source mask).valueTy = (swizzle other next).valueTy ∧
      (swizzle source mask).valueTy.elementCount = mask.length := by
  rw [valueTy, valueTy, hlength]
  generalize mask.length = n at hpos hmax
  match n, hpos, hmax with
  | 1, _, _ | 2, _, _ | 3, _, _ | 4, _, _ => exact ⟨rfl, rfl⟩

theorem AcceptsAll.congr (hty : source.valueTy = other.valueTy) (h : source.AcceptsAll masks) :
    other.AcceptsAll masks := by
  induction masks generalizing source other with
  | nil => trivial
  | cons mask masks ih =>
      obtain ⟨hmask, hmasks⟩ := h
      refine ⟨hty ▸ hmask, ih ?_ hmasks⟩
      rw [valueTy, valueTy, hty]

/-- The next mask of a chain selects letters of the mask before it, and these make one mask
in place of the two. -/
theorem AcceptsAll.exists_joined (h : source.AcceptsAll (mask :: next :: masks)) :
    ∃ letters, select? next mask.toList = some letters ∧ (∀ c ∈ letters, c ∈ mask.toList) ∧
      source.AcceptsAll (String.ofList letters :: masks) ∧
      (swizzle source (String.ofList letters)).valueTy =
        (swizzle (swizzle source mask) next).valueTy := by
  obtain ⟨hmask, hnext, hmasks⟩ := h
  obtain ⟨hty, hselects⟩ := checkMask_eq_ok_iff.mp hmask
  obtain ⟨-, hcount⟩ := valueTy_swizzle source source mask mask hselects.1 hselects.2.1 rfl
  -- the second mask is checked against the number of letters of the first
  have hfits : Selects mask.toList.length next := by
    rw [String.length_toList, ← hcount]
    exact (checkMask_eq_ok_iff.mp hnext).2
  obtain ⟨letters, hletters, hlength, hsubset⟩ := hfits.exists_select?
  have hpos : 1 ≤ letters.length := hlength ▸ hfits.1
  have hmax : letters.length ≤ 4 := hlength ▸ hfits.2.1
  obtain ⟨hvalue, -⟩ := valueTy_swizzle source (swizzle source mask) (String.ofList letters) next
    (by rwa [String.length_ofList]) (by rwa [String.length_ofList])
    (by rw [String.length_ofList, hlength])
  refine ⟨letters, hletters, hsubset, ⟨?_, hmasks.congr hvalue.symm⟩, hvalue⟩
  exact checkMask_eq_ok_iff.mpr ⟨hty, hselects.of_subset hpos hmax hsubset⟩

theorem valueTy_swizzleAll_congr (hty : source.valueTy = other.valueTy) :
    (source.swizzleAll masks).valueTy = (other.swizzleAll masks).valueTy := by
  induction masks generalizing source other with
  | nil => exact hty
  | cons mask masks ih =>
      refine ih ?_
      rw [valueTy, valueTy, hty]

end Chains

/-- One mask on a source that stands for a chain of masks on it. -/
structure Collapses (source : Operand) (first : String) (masks : List String) (mask : String) :
    Prop where
  /-- The letters are those of the first mask, selected by the other masks in turn. -/
  letters : selectAll? masks first.toList = some mask.toList
  among : ∀ c ∈ mask.toList, c ∈ first.toList
  /-- So both masks are written with the names of one set, whatever the others use. -/
  names : ∃ set ∈ componentSets, (∀ c ∈ first.toList, c ∈ set) ∧ ∀ c ∈ mask.toList, c ∈ set
  passes : checkMask source.valueTy mask = .ok ()
  valueTy : (swizzle source mask).valueTy = (source.swizzleAll (first :: masks)).valueTy
  /-- The chain and the mask select the same components of the source. -/
  components : ∀ {α : Type} (components : List α),
    components.length = source.valueTy.elementCount →
      ∃ selected, select? mask components = some selected ∧
        selectAll? (first :: masks) components = some selected

/-- A mask that passes is its own chain. -/
theorem collapses_nil {source : Operand} {first : String}
    (h : checkMask source.valueTy first = .ok ()) : source.Collapses first [] first := by
  obtain ⟨-, hselects⟩ := checkMask_eq_ok_iff.mp h
  refine ⟨rfl, fun c hc => hc, exists_names_of_checkMask h fun c hc => hc, h, rfl, ?_⟩
  intro α components hlength
  rw [← hlength] at hselects
  obtain ⟨selected, hselected, -⟩ := hselects.exists_select?
  refine ⟨selected, hselected, ?_⟩
  rw [selectAll?, hselected]
  rfl

/-- A chain of masks that pass their checks one by one collapses to a single mask. -/
theorem exists_collapses (source : Operand) (first : String) (masks : List String)
    (h : source.AcceptsAll (first :: masks)) : ∃ mask, source.Collapses first masks mask := by
  induction masks generalizing first with
  | nil => exact ⟨first, collapses_nil h.1⟩
  | cons next masks ih =>
      obtain ⟨letters, hletters, hsubset, haccepts, hvalue⟩ := h.exists_joined
      obtain ⟨mask, hmask⟩ := ih _ haccepts
      have hamong : ∀ c ∈ mask.toList, c ∈ first.toList := by
        intro c hc
        have hc := hmask.among c hc
        rw [String.toList_ofList] at hc
        exact hsubset c hc
      refine ⟨mask, ?_, hamong, exists_names_of_checkMask h.1 hamong, hmask.passes, ?_, ?_⟩
      · have hrest := hmask.letters
        rw [String.toList_ofList] at hrest
        rw [selectAll?, hletters]
        exact hrest
      · exact hmask.valueTy.trans (valueTy_swizzleAll_congr hvalue)
      · intro α components hlength
        obtain ⟨selected, hselected, hchain⟩ := hmask.components components hlength
        refine ⟨selected, hselected, ?_⟩
        have hfits := (checkMask_eq_ok_iff.mp h.1).2
        rw [← hlength] at hfits
        obtain ⟨below, hbelow, -⟩ := hfits.exists_select?
        rw [selectAll?, hbelow, Option.bind_some, selectAll?, select?_of_select? hbelow, hletters]
        exact hchain

/-- Masks of three sets on a lookup in a texture: one component is left and then repeated. -/
theorem exists_collapses_repeated :
    let source : Operand := .call .texture2D
      [.var (.uniform ⟨"u_Tex", .sampler⟩), .var (.varying ⟨"v_Tex", .vec2⟩)]
    source.AcceptsAll ["bgr", "yz", "t", "xxxx"] ∧
      source.Collapses "bgr" ["yz", "t", "xxxx"] "rrrr" := by
  intro source
  have haccepts : source.AcceptsAll ["bgr", "yz", "t", "xxxx"] := by
    refine ⟨?_, ?_, ?_, ?_, trivial⟩ <;> rfl
  obtain ⟨mask, hmask⟩ := exists_collapses source "bgr" ["yz", "t", "xxxx"] haccepts
  have hletters : selectAll? ["yz", "t", "xxxx"] "bgr".toList = some "rrrr".toList := by
    decide +kernel
  have heq : mask = "rrrr" := by
    have hsame := hmask.letters.symm.trans hletters
    exact String.toList_inj.mp (Option.some.inj hsame)
  exact ⟨haccepts, heq ▸ hmask⟩

end Operand

end ShaderTree
