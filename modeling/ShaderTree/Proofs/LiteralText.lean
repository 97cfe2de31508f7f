import Mathlib.Algebra.Order.Field.Rat
import Mathlib.Algebra.Order.Field.Power
import Mathlib.Data.List.TakeWhile
import Mathlib.Tactic.FieldSimp
import Mathlib.Tactic.Ring
import ShaderTree.Binary32.Literal
import ShaderTree.Proofs.Rounding

/-!
# The text of a float literal

The text of a magnitude has one of two forms: digits on both sides of a point, or
one digit, possibly more after a point, and a power of ten.  `numeralValue` is the
number that such a text denotes.  Written in place or with a power of ten, the
text of a float denotes the shortest decimal of the float.
-/

namespace ShaderTree

def AllDigits (cs : List Char) : Prop := ∀ c ∈ cs, c.isDigit

theorem AllDigits.append {as bs : List Char} (ha : AllDigits as) (hb : AllDigits bs) :
    AllDigits (as ++ bs) := by
  intro c hc
  rcases List.mem_append.mp hc with h | h
  · exact ha c h
  · exact hb c h

theorem allDigits_replicate_zero (n : Nat) : AllDigits (List.replicate n '0') := by
  intro c hc
  rw [List.eq_of_mem_replicate hc]
  decide

theorem allDigits_zero : AllDigits ['0'] := allDigits_replicate_zero 1

theorem allDigits_toDigits (n : Nat) : AllDigits (Nat.toDigits 10 n) := fun _ hc =>
  Nat.isDigit_of_mem_toDigits (by decide) (by decide) hc

/-- An integer is written with digits that may follow a sign. -/
theorem exists_sign_digits (e : Int) : ∃ sign digits, (sign = [] ∨ sign = ['-']) ∧
    AllDigits digits ∧ digits ≠ [] ∧ (toString e).toList = sign ++ digits := by
  rw [Int.toString_eq_repr, Int.repr_eq_if]
  split
  · exact ⟨[], _, .inl rfl, allDigits_toDigits e.toNat, Nat.toDigits_ne_nil, by simp⟩
  · exact ⟨['-'], _, .inr rfl, allDigits_toDigits (-e).toNat, Nat.toDigits_ne_nil, by simp⟩

/-- What may be written of a magnitude. -/
inductive FloatForm : List Char → Prop where
  | positional {whole fraction : List Char} (hwhole : AllDigits whole) (hw : whole ≠ [])
      (hfraction : AllDigits fraction) (hf : fraction ≠ []) :
      FloatForm (whole ++ '.' :: fraction)
  | scientific {digit : Char} {fraction sign exponent : List Char} (hdigit : digit.isDigit)
      (hfraction : AllDigits fraction) (hsign : sign = [] ∨ sign = ['-'])
      (hexponent : AllDigits exponent) (he : exponent ≠ []) :
      FloatForm (digit :: ((if fraction = [] then [] else '.' :: fraction) ++
        'e' :: (sign ++ exponent)))

theorem FloatForm.exists_cons {cs : List Char} (h : FloatForm cs) :
    ∃ c rest, cs = c :: rest ∧ c.isDigit := by
  cases h with
  | positional hwhole hw =>
      obtain ⟨c, rest, rfl⟩ := List.exists_cons_of_ne_nil hw
      exact ⟨c, _, rfl, hwhole c List.mem_cons_self⟩
  | scientific hdigit => exact ⟨_, _, rfl, hdigit⟩

/-- A magnitude is marked as a float by a point or a power of ten. -/
theorem FloatForm.mem_point_or_power {cs : List Char} (h : FloatForm cs) :
    '.' ∈ cs ∨ 'e' ∈ cs := by
  cases h with
  | positional => exact .inl (List.mem_append_right _ List.mem_cons_self)
  | scientific =>
      exact .inr (List.mem_cons_of_mem _ (List.mem_append_right _ List.mem_cons_self))

namespace Decimal

/-- Only zeros are left out at the end. -/
theorem toDigits_eq_append (d : Decimal) :
    ∃ k, Nat.toDigits 10 d.coefficient = d.significantDigits ++ List.replicate k '0' := by
  have hsplit := (Nat.toDigits 10 d.coefficient).reverse.takeWhile_append_dropWhile
    (p := (· == '0'))
  have hzeros : (Nat.toDigits 10 d.coefficient).reverse.takeWhile (· == '0') =
      List.replicate ((Nat.toDigits 10 d.coefficient).reverse.takeWhile (· == '0')).length '0' :=
    List.eq_replicate_of_mem fun c hc => by simpa using List.mem_takeWhile_imp hc
  refine ⟨((Nat.toDigits 10 d.coefficient).reverse.takeWhile (· == '0')).length, ?_⟩
  rw [← List.reverse_inj, List.reverse_append, List.reverse_replicate, ← hzeros,
    significantDigits, List.reverse_reverse, hsplit]

theorem allDigits_significantDigits (d : Decimal) : AllDigits d.significantDigits := by
  obtain ⟨k, hk⟩ := d.toDigits_eq_append
  intro c hc
  exact allDigits_toDigits d.coefficient c (hk ▸ List.mem_append_left _ hc)

theorem significantDigits_ne_nil {d : Decimal} (h : 0 < d.units) : d.significantDigits ≠ [] := by
  intro hnil
  obtain ⟨k, hk⟩ := d.toDigits_eq_append
  have hzero : d.coefficient = 0 := by
    rw [← Nat.ofDigitChars_ten_toDigits (n := d.coefficient), hk, hnil, List.nil_append,
      Nat.ofDigitChars_replicate_zero, Nat.mul_zero]
  simp [units, hzero] at h

end Decimal

namespace Binary32

theorem floatForm_inPlace {digits : List Char} (hdigits : AllDigits digits) (hne : digits ≠ []) :
    ∀ e : Int, FloatForm (inPlace digits e)
  | .ofNat e => by
      have hwhole : AllDigits (digits.take (e + 1) ++
          List.replicate (e + 1 - (digits.take (e + 1)).length) '0') :=
        AllDigits.append (fun c hc => hdigits c (List.mem_of_mem_take hc))
          (allDigits_replicate_zero _)
      have hw : digits.take (e + 1) ++
          List.replicate (e + 1 - (digits.take (e + 1)).length) '0' ≠ [] := by
        simp [hne]
      simp only [inPlace]
      split
      · exact .positional hwhole hw allDigits_zero (by simp)
      · next hrest =>
          exact .positional hwhole hw (fun c hc => hdigits c (List.mem_of_mem_drop hc))
            (by simpa using hrest)
  | .negSucc e => by
      have hfraction : AllDigits (List.replicate e '0' ++ digits) :=
        (allDigits_replicate_zero e).append hdigits
      change FloatForm (['0'] ++ '.' :: (List.replicate e '0' ++ digits))
      exact .positional allDigits_zero (by simp) hfraction (by simp [hne])

theorem floatForm_withExponent {digits : List Char} (hdigits : AllDigits digits)
    (hne : digits ≠ []) (e : Int) : FloatForm (withExponent digits e) := by
  obtain ⟨digit, fraction, rfl⟩ := List.exists_cons_of_ne_nil hne
  obtain ⟨sign, exponent, hsign, hexponent, he, htext⟩ := exists_sign_digits e
  have hform := FloatForm.scientific (hdigits digit List.mem_cons_self)
    (fun c hc => hdigits c (List.mem_cons_of_mem _ hc)) hsign hexponent he
  rw [withExponent, htext]
  cases fraction <;> exact hform

end Binary32

/-- The number denoted by digits that may follow a sign. -/
def integerValue : List Char → Int
  | '-' :: digits => -(Nat.ofDigitChars 10 digits 0 : Int)
  | digits => Nat.ofDigitChars 10 digits 0

/-- The number denoted by a text with a point, a power of ten or both. -/
def numeralValue (cs : List Char) : ℚ :=
  let mantissa := cs.takeWhile (· ≠ 'e')
  let fraction := (mantissa.dropWhile (· ≠ '.')).drop 1
  let exponent := integerValue ((cs.dropWhile (· ≠ 'e')).drop 1)
  Nat.ofDigitChars 10 (mantissa.takeWhile (· ≠ '.') ++ fraction) 0 *
    10 ^ (exponent - fraction.length)

section Values

variable {as bs : List Char} {c : Char}

theorem takeWhile_ne_append_cons (h : c ∉ as) : (as ++ c :: bs).takeWhile (· ≠ c) = as := by
  have hall : ∀ a ∈ as, decide (a ≠ c) = true := by
    intro a ha
    simpa using fun hac : a = c => h (hac ▸ ha)
  rw [List.takeWhile_append_of_pos hall]
  simp

theorem dropWhile_ne_append_cons (h : c ∉ as) : (as ++ c :: bs).dropWhile (· ≠ c) = c :: bs := by
  have hsplit := (as ++ c :: bs).takeWhile_append_dropWhile (p := (· ≠ c))
  rw [takeWhile_ne_append_cons h] at hsplit
  exact List.append_cancel_left hsplit

theorem takeWhile_ne_self (h : c ∉ as) : as.takeWhile (· ≠ c) = as :=
  List.takeWhile_eq_self_iff.mpr fun a ha => by simpa using fun hac : a = c => h (hac ▸ ha)

theorem dropWhile_ne_self (h : c ∉ as) : as.dropWhile (· ≠ c) = [] :=
  List.dropWhile_eq_nil_iff.mpr fun a ha => by simpa using fun hac : a = c => h (hac ▸ ha)

theorem AllDigits.notMem (h : AllDigits as) (hc : c.isDigit = false) : c ∉ as := by
  intro hmem
  rw [h c hmem] at hc
  cases hc

theorem numeralValue_positional (ha : AllDigits as) (hb : AllDigits bs) :
    numeralValue (as ++ '.' :: bs) = Nat.ofDigitChars 10 (as ++ bs) 0 * 10 ^ (-bs.length : ℤ) := by
  have hnone : 'e' ∉ as ++ '.' :: bs := by
    simp [ha.notMem (c := 'e') (by decide), hb.notMem (c := 'e') (by decide)]
  have hpoint : '.' ∉ as := ha.notMem (by decide)
  simp only [numeralValue, takeWhile_ne_self hnone, dropWhile_ne_self hnone,
    takeWhile_ne_append_cons hpoint, dropWhile_ne_append_cons hpoint]
  simp [integerValue, Nat.ofDigitChars]

theorem numeralValue_scientific (hc : c.isDigit) (ha : AllDigits as) :
    numeralValue (c :: ((if as = [] then [] else '.' :: as) ++ 'e' :: bs)) =
      Nat.ofDigitChars 10 (c :: as) 0 * 10 ^ (integerValue bs - as.length) := by
  have hdigit : AllDigits [c] := by simpa [AllDigits] using hc
  have hpoint : '.' ∉ [c] := hdigit.notMem (by decide)
  have hexponent : 'e' ∉ [c] := hdigit.notMem (by decide)
  by_cases has : as = []
  · have htext : c :: ((if as = [] then [] else '.' :: as) ++ 'e' :: bs) = [c] ++ 'e' :: bs := by
      simp [has]
    rw [htext]
    simp only [numeralValue, takeWhile_ne_append_cons hexponent,
      dropWhile_ne_append_cons hexponent, takeWhile_ne_self hpoint, dropWhile_ne_self hpoint]
    simp [has]
  · have hmantissa : 'e' ∉ [c] ++ '.' :: as := by
      have := ha.notMem (c := 'e') (by decide)
      simp_all
    have htext : c :: ((if as = [] then [] else '.' :: as) ++ 'e' :: bs) =
        ([c] ++ '.' :: as) ++ 'e' :: bs := by
      simp [has]
    rw [htext]
    simp only [numeralValue, takeWhile_ne_append_cons hmantissa,
      dropWhile_ne_append_cons hmantissa, takeWhile_ne_append_cons hpoint,
      dropWhile_ne_append_cons hpoint]
    simp

theorem integerValue_toString (e : Int) : integerValue (toString e).toList = e := by
  rw [Int.toString_eq_repr, Int.repr_eq_if]
  split
  · next h =>
      have hdigits : ∀ ds, AllDigits ds → integerValue ds = Nat.ofDigitChars 10 ds 0 := by
        intro ds hds
        unfold integerValue
        split
        · exact absurd (hds '-' List.mem_cons_self) (by decide)
        · rfl
      rw [Nat.toList_repr, hdigits _ (allDigits_toDigits _), Nat.ofDigitChars_ten_toDigits]
      omega
  · next h =>
      simp only [String.toList_append, Nat.toList_repr]
      change -(Nat.ofDigitChars 10 (Nat.toDigits 10 (-e).toNat) 0 : Int) = e
      rw [Nat.ofDigitChars_ten_toDigits]
      omega

end Values

namespace Binary32

/-- Written in place, digits keep their value. -/
theorem numeralValue_inPlace {digits : List Char} (hdigits : AllDigits digits) : ∀ e : Int,
    numeralValue (inPlace digits e) =
      Nat.ofDigitChars 10 digits 0 * 10 ^ (e + 1 - digits.length)
  | .ofNat e => by
      have hten : (10 : ℚ) ≠ 0 := by norm_num
      by_cases hlength : digits.length ≤ e + 1
      · -- all digits stand before the point, filled up with zeros
        have htext : inPlace digits (.ofNat e) =
            (digits ++ List.replicate (e + 1 - digits.length) '0') ++ '.' :: ['0'] := by
          simp [inPlace, List.take_of_length_le hlength, List.drop_of_length_le hlength]
        have hvalue : Nat.ofDigitChars 10
            (digits ++ List.replicate (e + 1 - digits.length) '0' ++ ['0']) 0 =
              10 * (10 ^ (e + 1 - digits.length) * Nat.ofDigitChars 10 digits 0) := by
          rw [Nat.ofDigitChars_append, Nat.ofDigitChars_append, Nat.ofDigitChars_replicate_zero]
          simp [Nat.ofDigitChars]
        have hexponent : (Int.ofNat e + 1 - digits.length : ℤ) =
            ((e + 1 - digits.length : ℕ) : ℤ) := by
          simp only [Int.ofNat_eq_natCast]
          omega
        rw [htext, numeralValue_positional (hdigits.append (allDigits_replicate_zero _))
          allDigits_zero, hvalue, hexponent, zpow_natCast]
        push_cast
        simp only [List.length_singleton, Nat.cast_one, zpow_neg, zpow_one]
        field_simp
      · -- the digits are split by the point
        have hdrop : (digits.drop (e + 1)).isEmpty = false := by
          rw [List.isEmpty_eq_false_iff, ← List.length_pos_iff, List.length_drop]
          omega
        have htext : inPlace digits (.ofNat e) =
            digits.take (e + 1) ++ '.' :: digits.drop (e + 1) := by
          simp only [inPlace, hdrop]
          simp
          omega
        have hexponent : (-(digits.drop (e + 1)).length : ℤ) = Int.ofNat e + 1 - digits.length := by
          rw [List.length_drop, Int.ofNat_eq_natCast]
          omega
        rw [htext, numeralValue_positional (fun c hc => hdigits c (List.mem_of_mem_take hc))
          (fun c hc => hdigits c (List.mem_of_mem_drop hc)), List.take_append_drop, hexponent]
  | .negSucc e => by
      have htext : inPlace digits (.negSucc e) =
          ['0'] ++ '.' :: (List.replicate e '0' ++ digits) := rfl
      have hvalue : Nat.ofDigitChars 10 (['0'] ++ (List.replicate e '0' ++ digits)) 0 =
          Nat.ofDigitChars 10 digits 0 := by
        rw [Nat.ofDigitChars_append, Nat.ofDigitChars_append]
        simp [Nat.ofDigitChars_replicate_zero, Nat.ofDigitChars_cons]
      have hexponent : (-(List.replicate e '0' ++ digits).length : ℤ) =
          Int.negSucc e + 1 - digits.length := by
        rw [List.length_append, List.length_replicate, Int.negSucc_eq]
        omega
      rw [htext, numeralValue_positional allDigits_zero
        ((allDigits_replicate_zero e).append hdigits), hvalue, hexponent]

/-- Written with a power of ten, digits keep their value. -/
theorem numeralValue_withExponent {digits : List Char} (hdigits : AllDigits digits)
    (hne : digits ≠ []) (e : Int) :
    numeralValue (withExponent digits e) =
      Nat.ofDigitChars 10 digits 0 * 10 ^ (e + 1 - digits.length) := by
  obtain ⟨digit, rest, rfl⟩ := List.exists_cons_of_ne_nil hne
  have htext : withExponent (digit :: rest) e =
      digit :: ((if rest = [] then [] else '.' :: rest) ++ 'e' :: (toString e).toList) := by
    rw [withExponent]
    cases rest <;> rfl
  have hexponent : e - rest.length = e + 1 - ((digit :: rest).length : ℤ) := by
    rw [List.length_cons]
    omega
  rw [htext, numeralValue_scientific (hdigits digit List.mem_cons_self)
    (fun c hc => hdigits c (List.mem_cons_of_mem _ hc)), integerValue_toString, hexponent]

end Binary32

namespace Decimal

/-- The number itself. -/
def value (d : Decimal) : ℚ := d.coefficient * 10 ^ ((d.place : ℤ) - 152)

theorem cast_units (d : Decimal) : (d.units : ℚ) = d.value * (10 ^ 152 * 2 ^ 152) := by
  have hten : (10 : ℚ) ≠ 0 := by norm_num
  have hpower : (10 : ℚ) ^ 152 ≠ 0 := pow_ne_zero _ hten
  rw [units_eq, value, zpow_sub₀ hten, zpow_natCast, zpow_ofNat]
  simp only [Nat.cast_mul, Nat.cast_pow, Nat.cast_ofNat]
  generalize (10 : ℚ) ^ 152 = t at hpower ⊢
  generalize (2 : ℚ) ^ 152 = u
  field_simp

/-- The digits from the first to the last that is not zero, at their place. -/
theorem value_significantDigits (d : Decimal) :
    Nat.ofDigitChars 10 d.significantDigits 0 *
      (10 : ℚ) ^ (d.leadingExponent + 1 - d.significantDigits.length) = d.value := by
  obtain ⟨k, hk⟩ := d.toDigits_eq_append
  have hten : (10 : ℚ) ≠ 0 := by norm_num
  have hcoefficient : d.coefficient = 10 ^ k * Nat.ofDigitChars 10 d.significantDigits 0 := by
    rw [← Nat.ofDigitChars_replicate_zero, ← Nat.ofDigitChars_append, ← hk,
      Nat.ofDigitChars_ten_toDigits]
  have hexponent : d.leadingExponent + 1 - d.significantDigits.length =
      k + ((d.place : ℤ) - 152) := by
    rw [leadingExponent, hk, List.length_append, List.length_replicate]
    push_cast
    omega
  rw [hexponent, zpow_add₀ hten, zpow_natCast, value, hcoefficient]
  push_cast
  ring

end Decimal

namespace Binary32

section Literal

variable {x : Binary32}

theorem shortest_units_pos (hx : x.isZero = false) : 0 < x.shortest.units :=
  units_pos_of_readsBack hx x.readsBack_shortest

/-- The magnitude of a finite float as text, whichever of the two forms is taken. -/
def magnitudeTextAs (placed : Bool) (x : Binary32) : List Char :=
  if x.isZero then
    ['0', '.', '0']
  else if placed then
    inPlace x.shortest.significantDigits x.shortest.leadingExponent
  else
    withExponent x.shortest.significantDigits x.shortest.leadingExponent

theorem magnitudeText_eq (x : Binary32) :
    x.magnitudeText = x.magnitudeTextAs (isWrittenInPlace x.shortest.leadingExponent) := rfl

theorem floatForm_magnitudeTextAs (placed : Bool) (x : Binary32) :
    FloatForm (x.magnitudeTextAs placed) := by
  unfold magnitudeTextAs
  by_cases hx : x.isZero
  · rw [if_pos hx]
    change FloatForm (['0'] ++ '.' :: ['0'])
    exact .positional allDigits_zero (by simp) allDigits_zero (by simp)
  · have hdigits := x.shortest.allDigits_significantDigits
    have hne := Decimal.significantDigits_ne_nil (shortest_units_pos (by simpa using hx))
    rw [if_neg hx]
    split
    · exact floatForm_inPlace hdigits hne _
    · exact floatForm_withExponent hdigits hne _

theorem floatForm_magnitudeText (x : Binary32) : FloatForm x.magnitudeText :=
  floatForm_magnitudeTextAs _ x

/-- The text of a magnitude denotes its shortest decimal. -/
theorem numeralValue_magnitudeTextAs (placed : Bool) (x : Binary32) :
    numeralValue (x.magnitudeTextAs placed) = if x.isZero then 0 else x.shortest.value := by
  unfold magnitudeTextAs
  by_cases hx : x.isZero
  · rw [if_pos hx, if_pos hx]
    change numeralValue (['0'] ++ '.' :: ['0']) = 0
    rw [numeralValue_positional allDigits_zero allDigits_zero]
    simp [Nat.ofDigitChars]
  · have hdigits := x.shortest.allDigits_significantDigits
    have hne := Decimal.significantDigits_ne_nil (shortest_units_pos (by simpa using hx))
    rw [if_neg hx, if_neg hx, ← x.shortest.value_significantDigits]
    split
    · exact numeralValue_inPlace hdigits _
    · exact numeralValue_withExponent hdigits hne _

theorem numeral_eq_append (x : Binary32) :
    x.numeral = (if x.isNegative then ['-'] else []) ++ x.magnitudeText := by
  unfold numeral
  split <;> rfl

/-- No point has to be added. -/
theorem withPoint_numeral (x : Binary32) : withPoint x.numeral = x.numeral := by
  have hmark := x.floatForm_magnitudeText.mem_point_or_power
  unfold withPoint
  rw [if_pos]
  rw [numeral_eq_append]
  rcases hmark with hpoint | hpower
  · exact .inl (List.mem_append_right _ hpoint)
  · exact .inr (.inl (List.mem_append_right _ hpower))

theorem toList_of_literal? {text : String} (hx : x.literal? = some text) :
    text.toList = (if x.isNegative then ['-'] else []) ++ x.magnitudeText := by
  unfold literal? at hx
  split at hx
  · rw [← Option.some.inj hx, String.toList_ofList, withPoint_numeral, numeral_eq_append]
  · cases hx

end Literal

end Binary32

end ShaderTree
