import Mathlib.Tactic.Linarith
import ShaderTree.Proofs.LiteralText

/-!
# Reading a literal gives the float back

`Binary32.RoundsTo` is rounding to nearest, said of numbers and magnitudes without
reference to digits: no other magnitude is nearer, and one that is as near gives
way to an even significand.  A number is rounded to at most one magnitude.

`Binary32.Denotes` reads a text: what follows the sign is taken as an exact decimal
and rounded, and the sign is kept.  The literal of a finite float denotes that float
and no other, whether its digits stand in place or with a power of ten.
-/

namespace ShaderTree

namespace Binary32

/-- The number for which the bits below the sign stand. Those of an infinity stand
for the number that would follow the largest finite one. -/
def magnitude (x : Binary32) : ℚ := x.significand * 2 ^ ((x.scale : ℤ) - 150)

/-- A nonnegative number is rounded to the magnitude of `x`. The infinity takes part
in the comparison, so what is too large is rounded to no finite float. -/
structure RoundsTo (q : ℚ) (x : Binary32) : Prop where
  finite : x.isFinite
  nearest : ∀ y : Binary32, y.isNaN = false → |q - x.magnitude| ≤ |q - y.magnitude|
  even : ∀ y : Binary32, y.isNaN = false → y.magnitudeBits ≠ x.magnitudeBits →
    |q - x.magnitude| = |q - y.magnitude| → x.significand % 2 = 0

section Nearest

variable {x y : Binary32} {d : Decimal} {q : ℚ}

theorem cast_units (x : Binary32) : (x.units : ℚ) = x.magnitude * (10 ^ 152 * 2 ^ 152) := by
  have htwo : (2 : ℚ) ≠ 0 := by norm_num
  have hpower : (2 : ℚ) ^ (x.scale + 2) = 2 ^ ((x.scale : ℤ) - 150) * 2 ^ 152 := by
    rw [← zpow_natCast, ← zpow_natCast, ← zpow_add₀ htwo]
    congr 1
    push_cast
    ring
  rw [units_eq, magnitude]
  simp only [Nat.cast_mul, Nat.cast_pow, Nat.cast_ofNat]
  rw [hpower]
  ring

/-- Distances between a decimal and a magnitude, measured in units. -/
theorem abs_value_sub_magnitude (d : Decimal) (x : Binary32) :
    |d.value - x.magnitude| * (10 ^ 152 * 2 ^ 152) = ((d.units - x.units : ℤ).natAbs : ℚ) := by
  have hunit : (0 : ℚ) < 10 ^ 152 * 2 ^ 152 := by positivity
  rw [Nat.cast_natAbs, Int.cast_abs]
  push_cast
  rw [d.cast_units, x.cast_units, ← sub_mul, abs_mul, abs_of_pos hunit]

theorem roundsTo_of_readsBack (hx : x.isFinite) (h : x.readsBack d) : RoundsTo d.value x := by
  have hunit : (0 : ℚ) < 10 ^ 152 * 2 ^ 152 := by positivity
  refine ⟨hx, fun y _ => ?_, fun y _ hne heq => ?_⟩
  · rw [← mul_le_mul_iff_left₀ hunit, abs_value_sub_magnitude, abs_value_sub_magnitude,
      Nat.cast_le]
    by_cases hne : y.magnitudeBits = x.magnitudeBits
    · rw [units_congr hne]
    · exact (natAbs_sub_units_le h hne).1
  · refine (natAbs_sub_units_le h hne).2 ?_
    rw [← Nat.cast_inj (R := ℚ), ← abs_value_sub_magnitude, ← abs_value_sub_magnitude, heq]

theorem isNaN_eq_false (hx : x.isFinite) : x.isNaN = false := by
  simpa using (x.isFinite_iff.mp hx).1

theorem magnitude_lt (h : x.magnitudeBits < y.magnitudeBits) : x.magnitude < y.magnitude := by
  have hunit : (0 : ℚ) < 10 ^ 152 * 2 ^ 152 := by positivity
  have habove := x.halfGapAbove_pos
  have hgap := units_add_le h
  rw [← mul_lt_mul_iff_left₀ hunit, ← cast_units, ← cast_units, Nat.cast_lt]
  omega

theorem RoundsTo.not_of_lt (hx : RoundsTo q x) (h : x.magnitudeBits < y.magnitudeBits) :
    ¬ RoundsTo q y := by
  intro hy
  have hxnan := isNaN_eq_false hx.finite
  have hynan := isNaN_eq_false hy.finite
  have hequal : |q - x.magnitude| = |q - y.magnitude| :=
    le_antisymm (hx.nearest y hynan) (hy.nearest x hxnan)
  have hxeven := hx.even y hynan h.ne' hequal
  have hyeven := hy.even x hxnan h.ne hequal.symm
  -- `z` is the magnitude after `x`: either it is `y`, or it is nearer than both
  have hlt := y.magnitudeBits_lt
  obtain ⟨z, hz⟩ := exists_magnitudeBits_eq (m := x.magnitudeBits + 1) (by omega)
  rcases Nat.lt_or_ge z.magnitudeBits y.magnitudeBits with hfar | hnear
  · have hznan : z.isNaN = false := by
      simp only [isNaN, decide_eq_false_iff_not] at hynan ⊢
      omega
    have hxz := magnitude_lt (x := x) (y := z) (by omega)
    have hzy := magnitude_lt hfar
    have hbetween : |q - z.magnitude| < |q - x.magnitude| := by
      rcases abs_eq_abs.mp hequal with hsame | hopposite
      · linarith
      · rw [abs_of_pos (a := q - x.magnitude) (by linarith), abs_lt]
        constructor <;> linarith
    exact absurd (hx.nearest z hznan) (not_le.mpr hbetween)
  · rcases odd_significand_succ (x := x) (y := y) (by omega) with hodd | hodd <;> omega

/-- A number is rounded to one magnitude. -/
theorem RoundsTo.magnitudeBits_eq (hx : RoundsTo q x) (hy : RoundsTo q y) :
    x.magnitudeBits = y.magnitudeBits := by
  rcases Nat.lt_trichotomy x.magnitudeBits y.magnitudeBits with hlt | heq | hgt
  · exact absurd hy (hx.not_of_lt hlt)
  · exact heq
  · exact absurd hx (hy.not_of_lt hgt)

end Nearest

/-- The float that a text denotes: what follows the sign is read as an exact decimal
and rounded, and the sign is kept. -/
def Denotes (text : List Char) (x : Binary32) : Prop :=
  match text with
  | '-' :: rest => x.isNegative = true ∧ RoundsTo (numeralValue rest) x
  | rest => x.isNegative = false ∧ RoundsTo (numeralValue rest) x

/-- A text in one of the two forms of a literal that denotes `x` and nothing else. -/
structure Spells (text : List Char) (x : Binary32) : Prop where
  form : ∃ sign magnitude, (sign = [] ∨ sign = ['-']) ∧ FloatForm magnitude ∧
    text = sign ++ magnitude
  marked : '.' ∈ text ∨ 'e' ∈ text
  denotes_iff : ∀ y, Denotes text y ↔ y = x

/-- A finite float as text, whichever of the two forms its digits take. -/
def numeralAs (placed : Bool) (x : Binary32) : List Char :=
  (if x.isNegative then ['-'] else []) ++ x.magnitudeTextAs placed

section Spelling

variable {x y : Binary32}

theorem denotes_signed_iff {negative : Bool} {magnitude : List Char} (h : FloatForm magnitude) :
    Denotes ((if negative then ['-'] else []) ++ magnitude) x ↔
      x.isNegative = negative ∧ RoundsTo (numeralValue magnitude) x := by
  cases negative with
  | true => rfl
  | false =>
      -- a magnitude begins with a digit, so nothing is taken for a sign
      obtain ⟨c, rest, rfl, hc⟩ := h.exists_cons
      have hsign : c ≠ '-' := fun h => absurd hc (by rw [h]; decide)
      simp only [Bool.false_eq_true, if_false, List.nil_append]
      unfold Denotes
      split
      · next heq => exact absurd (List.cons.inj heq).1 hsign
      · rfl

/-- The text of a magnitude is rounded to that magnitude. -/
theorem roundsTo_magnitudeTextAs (placed : Bool) (hx : x.isFinite) :
    RoundsTo (numeralValue (x.magnitudeTextAs placed)) x := by
  rw [numeralValue_magnitudeTextAs]
  split
  · next hzero =>
      have hunits : x.units = 0 := by
        simp only [isZero, decide_eq_true_eq] at hzero
        simp [units, significand, exponentField, fraction, hzero]
      have hreads : x.readsBack ⟨0, 0⟩ := by
        have habove := x.halfGapAbove_pos
        have hbelow := x.halfGapBelow_pos
        rw [readsBack_iff, upperEnd, hunits]
        simp only [Decimal.units, Nat.zero_mul]
        omega
      have hvalue : (⟨0, 0⟩ : Decimal).value = 0 := by simp [Decimal.value]
      exact hvalue ▸ roundsTo_of_readsBack hx hreads
  · exact roundsTo_of_readsBack hx x.readsBack_shortest

theorem spells_numeralAs (placed : Bool) (hx : x.isFinite) : Spells (x.numeralAs placed) x := by
  have hform := floatForm_magnitudeTextAs placed x
  have hrounds := roundsTo_magnitudeTextAs placed hx
  refine ⟨⟨_, _, ?_, hform, rfl⟩, ?_, fun y => ?_⟩
  · cases x.isNegative <;> simp
  · exact hform.mem_point_or_power.imp (List.mem_append_right _) (List.mem_append_right _)
  · rw [numeralAs, denotes_signed_iff hform]
    constructor
    · rintro ⟨hsign, hy⟩
      exact eq_of_magnitudeBits hsign (hy.magnitudeBits_eq hrounds)
    · rintro rfl
      exact ⟨rfl, hrounds⟩

theorem spells_of_literal? {text : String} (h : x.literal? = some text) :
    Spells text.toList x := by
  have hx : x.isFinite := by
    by_contra hx
    simp [literal?, hx] at h
  rw [toList_of_literal? h, magnitudeText_eq]
  exact spells_numeralAs _ hx

/-- A literal denotes one float. -/
theorem eq_of_literal? {text : String} (hx : x.literal? = some text)
    (hy : y.literal? = some text) : x = y :=
  ((spells_of_literal? hy).denotes_iff x).mp (((spells_of_literal? hx).denotes_iff x).mpr rfl)

theorem literal?_eq_none_iff : x.literal? = none ↔ x.isNaN ∨ x.isInfinite := by
  have hfinite := x.isFinite_iff
  unfold literal?
  split
  · next hx => simpa using hfinite.mp hx
  · next hx =>
      refine iff_of_true rfl ?_
      by_contra hneither
      exact hx (hfinite.mpr (not_or.mp hneither))

/-- Exactly the finite floats have a literal. It is the numeral as it stands, has one
of the two forms, and denotes the float; the other form would denote it as well. -/
theorem literal_spells (x : Binary32) :
    (x.literal? = none ↔ x.isNaN ∨ x.isInfinite) ∧
      (∀ text, x.literal? = some text → text.toList = x.numeral ∧ Spells text.toList x) ∧
      (x.isFinite → ∀ placed, Spells (x.numeralAs placed) x) := by
  refine ⟨literal?_eq_none_iff, fun text htext => ?_, fun hx placed => spells_numeralAs placed hx⟩
  exact ⟨(toList_of_literal? htext).trans x.numeral_eq_append.symm, spells_of_literal? htext⟩

example : literal? ⟨0x80000000⟩ = some "-0.0" ∧ literal? ⟨0x00000001⟩ = some "1e-45" := by
  decide +kernel

end Spelling

end Binary32

end ShaderTree
