import ShaderTree.Binary32.Basic

/-!
# The shortest decimal of a float

Every finite magnitude, both ends of the interval of reals that round to it, and
every decimal considered here are whole multiples of one unit, `2^-152 · 10^-152`.
Measured in that unit all comparisons are comparisons of natural numbers and
nothing is rounded.

`shortest` tries the decimal grids from coarse to fine.  On each it looks at the
two neighbours of the float; the first grid on which one of them reads back to
the float gives the answer.
-/

namespace ShaderTree

/-- The decimal number `coefficient · 10^(place - 152)`. -/
structure Decimal where
  coefficient : Nat
  place : Nat
  deriving DecidableEq, Repr

/-- A decimal measured in units of `2^-152 · 10^-152`. -/
def Decimal.units (d : Decimal) : Nat := d.coefficient * Nat.pow 10 d.place * Nat.pow 2 152

namespace Binary32

/-- The fraction with the leading bit that normal numbers leave out. -/
def significand (x : Binary32) : Nat :=
  if x.exponentField = 0 then x.fraction else 0x800000 + x.fraction

/-- The exponent with which a finite magnitude is `significand · 2^(scale - 150)`. -/
def scale (x : Binary32) : Nat := max x.exponentField 1

/-- The magnitude measured in units of `2^-152 · 10^-152`. -/
def units (x : Binary32) : Nat := x.significand * Nat.pow 2 (x.scale + 2) * Nat.pow 10 152

/-- Half the distance to the next larger magnitude, in units. -/
def halfGapAbove (x : Binary32) : Nat := Nat.pow 2 (x.scale + 1) * Nat.pow 10 152

/-- Half the distance to the next smaller magnitude, in units. Below a power of
two the floats lie twice as close as above it. -/
def halfGapBelow (x : Binary32) : Nat :=
  if x.significand = 0x800000 ∧ 1 < x.scale then
    Nat.pow 2 x.scale * Nat.pow 10 152
  else
    x.halfGapAbove

/-- Whether a decimal rounds to the magnitude of `x`. A decimal half way between
two floats goes to the one with the even significand. -/
def readsBack (x : Binary32) (d : Decimal) : Bool :=
  if x.significand % 2 = 0 then
    x.units ≤ d.units + x.halfGapBelow && d.units ≤ x.units + x.halfGapAbove
  else
    x.units < d.units + x.halfGapBelow && d.units < x.units + x.halfGapAbove

/-- The one of the two neighbours of `x` among the multiples of a power of ten
that reads back to `x`; of two such the nearer, and the larger when both are
equally near. -/
def neighbour? (x : Binary32) (place : Nat) : Option Decimal :=
  let below : Decimal := ⟨x.units / (Nat.pow 10 place * Nat.pow 2 152), place⟩
  let above : Decimal := ⟨below.coefficient + 1, place⟩
  if x.readsBack above && (!x.readsBack below || above.units + below.units ≤ 2 * x.units) then
    some above
  else if x.readsBack below then
    some below
  else
    none

/-- The magnitude of `x` written out in full. -/
def exactDecimal (x : Binary32) : Decimal :=
  ⟨x.significand * Nat.pow 2 (x.scale + 2) * Nat.pow 5 152, 0⟩

/-- The number of decimal places at and above which `x` has digits. -/
def leadingPlace (x : Binary32) : Nat := (Nat.toDigits 10 (x.units / Nat.pow 2 152)).length

/-- The decimal with the fewest digits that reads back to the magnitude of `x`.
Nine digits always suffice. -/
def shortest (x : Binary32) : Decimal :=
  ([1, 2, 3, 4, 5, 6, 7, 8, 9].findSome? fun n => x.neighbour? (x.leadingPlace - n)).getD
    x.exactDecimal

theorem exactDecimal_units (x : Binary32) : x.exactDecimal.units = x.units := by
  have hten : Nat.pow 10 152 = Nat.pow 5 152 * Nat.pow 2 152 := by decide
  have hone : Nat.pow 10 0 = 1 := rfl
  rw [Decimal.units, exactDecimal, units, hten, hone, Nat.mul_one, Nat.mul_assoc]

theorem halfGapAbove_pos (x : Binary32) : 0 < x.halfGapAbove :=
  Nat.mul_pos (Nat.two_pow_pos _) (by decide)

theorem halfGapBelow_pos (x : Binary32) : 0 < x.halfGapBelow := by
  unfold halfGapBelow
  split
  · exact Nat.mul_pos (Nat.two_pow_pos _) (by decide)
  · exact x.halfGapAbove_pos

theorem readsBack_exactDecimal (x : Binary32) : x.readsBack x.exactDecimal := by
  have := x.halfGapAbove_pos
  have := x.halfGapBelow_pos
  unfold readsBack
  rw [exactDecimal_units]
  split
  · simp
  · simp; omega

theorem readsBack_of_neighbour? {x : Binary32} {place : Nat} {d : Decimal}
    (h : x.neighbour? place = some d) : x.readsBack d := by
  simp only [neighbour?] at h
  split at h
  · simp_all
  · split at h <;> simp_all

/-- What is written reads back. -/
theorem readsBack_shortest (x : Binary32) : x.readsBack x.shortest := by
  unfold shortest
  cases h : [1, 2, 3, 4, 5, 6, 7, 8, 9].findSome? fun n => x.neighbour? (x.leadingPlace - n) with
  | none => exact x.readsBack_exactDecimal
  | some d =>
    obtain ⟨n, _, hn⟩ := List.exists_of_findSome?_eq_some h
    exact readsBack_of_neighbour? hn

end Binary32

end ShaderTree
