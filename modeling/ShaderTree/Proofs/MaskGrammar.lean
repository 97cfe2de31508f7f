import ShaderTree.Proofs.MaskComposition

/-!
# The grammar of masks

A mask is any text, and its check answers for every type and every text.  It lets through
one to four letters of one set of names, none beyond the components of the type, and only
where the type has components at all.

`Objection` says what is wrong otherwise.  The type comes first, then the number of
letters, then the letters from left to right: the first letter fixes the set of names, and
the first that has no place in what the source has of this set is the one complained about.
A refusal carries this complaint together with the mask and the type as they were given.
-/

namespace ShaderTree

/-- The types whose values have components to select. -/
def Ty.withComponents : List Ty := [.float, .vec2, .vec3, .vec4, .byte4]

theorem Ty.mem_withComponents_iff {ty : Ty} : ty ∈ Ty.withComponents ↔ ty.isSwizzleable := by
  cases ty <;> decide

namespace Glsl

/-- What is wrong with the letters of a mask on a source with `count` components. -/
inductive LetterObjection (count : Nat) : List Char → MaskProblem → Prop where
  | notAComponent {first : Char} {rest : List Char} (hfirst : ∀ set ∈ componentSets, first ∉ set) :
      LetterObjection count (first :: rest) (.notAComponent first)
  | outOfRange {set : List Char} {first c : Char} {rest before after : List Char}
      (hset : set ∈ componentSets) (hfirst : first ∈ set)
      (hletters : first :: rest = before ++ c :: after)
      (hbefore : ∀ d ∈ before, d ∈ set.take count) (hc : c ∈ set) (hout : c ∉ set.take count) :
      LetterObjection count (first :: rest) (.outOfRange c)
  | mixedSets {set : List Char} {first c : Char} {rest before after : List Char}
      (hset : set ∈ componentSets) (hfirst : first ∈ set)
      (hletters : first :: rest = before ++ c :: after)
      (hbefore : ∀ d ∈ before, d ∈ set.take count) (hc : c ∉ set) :
      LetterObjection count (first :: rest) (.mixedSets c)

/-- What is wrong with a mask on a value of type `ty`. -/
inductive Objection (ty : Ty) (mask : String) : MaskProblem → Prop where
  | noComponents (hty : ty ∉ Ty.withComponents) : Objection ty mask .noComponents
  | length (hty : ty ∈ Ty.withComponents) (hlength : mask.length = 0 ∨ 4 < mask.length) :
      Objection ty mask (.length mask.length)
  | letter {problem : MaskProblem} (hty : ty ∈ Ty.withComponents) (hpos : 1 ≤ mask.length)
      (hmax : mask.length ≤ 4) (hletters : LetterObjection ty.elementCount mask.toList problem) :
      Objection ty mask problem

section Letters

variable {set : List Char} {c : Char} {count : Nat} {problem : MaskProblem}

/-- A letter is bad for one of two reasons, by whether its set has it at all. -/
theorem letterProblem?_eq_some_iff :
    letterProblem? set count c = some problem ↔
      c ∉ set.take count ∧
        (c ∈ set ∧ problem = .outOfRange c ∨ c ∉ set ∧ problem = .mixedSets c) := by
  rw [← letterProblem?_eq_none_iff]
  unfold letterProblem?
  cases hindex : set.idxOf? c with
  | none =>
      have hmem : c ∉ set := List.idxOf?_eq_none_iff.mp hindex
      simp [hmem, eq_comm]
  | some i =>
      have hmem : c ∈ set := List.isSome_idxOf?.mp (by simp [hindex])
      by_cases hi : i < count <;> simp [hmem, hi, eq_comm]

/-- Of several letters the first bad one is found. -/
theorem findSome?_letterProblem?_eq_some_iff {letters : List Char} :
    letters.findSome? (letterProblem? set count) = some problem ↔
      ∃ before c after, letters = before ++ c :: after ∧
        (c ∉ set.take count ∧
          (c ∈ set ∧ problem = .outOfRange c ∨ c ∉ set ∧ problem = .mixedSets c)) ∧
        ∀ d ∈ before, d ∈ set.take count := by
  simp only [List.findSome?_eq_some_iff, letterProblem?_eq_some_iff, letterProblem?_eq_none_iff]

theorem componentSet?_eq_none_iff :
    componentSet? c = none ↔ ∀ set ∈ componentSets, c ∉ set := by
  simp [componentSet?, List.find?_eq_none]

/-- The set is that of the first letter, and the complaint is about the first bad letter. -/
theorem componentProblem?_eq_some_iff {first : Char} {rest : List Char} :
    componentProblem? count first rest = some problem ↔
      LetterObjection count (first :: rest) problem := by
  unfold componentProblem?
  constructor
  · intro h
    split at h
    · next hnone =>
        obtain rfl : MaskProblem.notAComponent first = problem := Option.some.inj h
        exact .notAComponent (componentSet?_eq_none_iff.mp hnone)
    · next set hsome =>
        have hset : set ∈ componentSets := List.mem_of_find?_eq_some hsome
        have hfirst : first ∈ set := by simpa using List.find?_some hsome
        obtain ⟨before, c, after, hletters, ⟨hout, ⟨hc, rfl⟩ | ⟨hc, rfl⟩⟩, hbefore⟩ :=
          findSome?_letterProblem?_eq_some_iff.mp h
        · exact .outOfRange hset hfirst hletters hbefore hc hout
        · exact .mixedSets hset hfirst hletters hbefore hc
  · intro h
    cases h with
    | notAComponent hfirst => rw [componentSet?_eq_none_iff.mpr hfirst]
    -- no letter is in two sets, so the set of the objection is the one that is looked up
    | outOfRange hset hfirst hletters hbefore hc hout =>
        rw [componentSet?_eq_some hset hfirst]
        exact findSome?_letterProblem?_eq_some_iff.mpr
          ⟨_, _, _, hletters, ⟨hout, .inl ⟨hc, rfl⟩⟩, hbefore⟩
    | mixedSets hset hfirst hletters hbefore hc =>
        rw [componentSet?_eq_some hset hfirst]
        exact findSome?_letterProblem?_eq_some_iff.mpr
          ⟨_, _, _, hletters, ⟨mt List.mem_of_mem_take hc, .inr ⟨hc, rfl⟩⟩, hbefore⟩

end Letters

section Masks

variable {ty : Ty} {mask : String} {problem : MaskProblem}

/-- The type is looked at first, then the number of letters, then the letters. -/
theorem objection_of_maskProblem? (h : maskProblem? ty mask = some problem) :
    Objection ty mask problem := by
  by_cases hty : ty.isSwizzleable
  · have hmem : ty ∈ Ty.withComponents := Ty.mem_withComponents_iff.mpr hty
    by_cases hlength : 1 ≤ mask.length ∧ mask.length ≤ 4
    · obtain ⟨first, rest, hmask⟩ := exists_cons_of_length hlength.1
      rw [maskProblem?_of_cons hty hlength hmask] at h
      refine .letter hmem hlength.1 hlength.2 ?_
      rw [hmask]
      exact componentProblem?_eq_some_iff.mp h
    · rw [maskProblem?_of_length hty hlength] at h
      obtain rfl := Option.some.inj h
      exact .length hmem (by omega)
  · rw [maskProblem?_of_not_isSwizzleable hty] at h
    obtain rfl := Option.some.inj h
    exact .noComponents (mt Ty.mem_withComponents_iff.mp hty)

theorem Objection.maskProblem?_eq_some (h : Objection ty mask problem) :
    maskProblem? ty mask = some problem := by
  cases h with
  | noComponents hty =>
      exact maskProblem?_of_not_isSwizzleable (mt Ty.mem_withComponents_iff.mpr hty)
  | length hty hlength =>
      exact maskProblem?_of_length (Ty.mem_withComponents_iff.mp hty) (by omega)
  | letter hty hpos hmax hletters =>
      obtain ⟨first, rest, hmask⟩ := exists_cons_of_length hpos
      rw [maskProblem?_of_cons (Ty.mem_withComponents_iff.mp hty) ⟨hpos, hmax⟩ hmask]
      rw [hmask] at hletters
      exact componentProblem?_eq_some_iff.mpr hletters

theorem maskProblem?_eq_some_iff :
    maskProblem? ty mask = some problem ↔ Objection ty mask problem :=
  ⟨objection_of_maskProblem?, Objection.maskProblem?_eq_some⟩

/-- A refusal is the complaint about the mask, with the mask and the type themselves. -/
theorem checkMask_eq_error_iff {fault : Fault} :
    checkMask ty mask = .error fault ↔
      ∃ problem, Objection ty mask problem ∧ fault = .badMask mask ty problem := by
  simp only [← maskProblem?_eq_some_iff]
  unfold checkMask
  split
  · next h => simp [h]
  · next problem h => simp [h, eq_comm]

end Masks

/-- The check of a mask lets through one to four letters of one set of names, all among those
for the components of the type, and refuses all else with the mask, the type and the first
thing that is wrong. -/
theorem checkMask_decides_grammar (ty : Ty) (mask : String) :
    (checkMask ty mask = .ok () ↔ ty ∈ Ty.withComponents ∧ Selects ty.elementCount mask) ∧
      ∀ fault, checkMask ty mask = .error fault ↔
        ∃ problem, Objection ty mask problem ∧ fault = .badMask mask ty problem := by
  refine ⟨?_, fun fault => checkMask_eq_error_iff⟩
  rw [checkMask_eq_ok_iff, Ty.mem_withComponents_iff]

end Glsl

end ShaderTree
