import Mathlib.Algebra.Group.Nat.Defs
import ShaderTree.Binary32.Decimal

/-!
# A decimal reads back to the nearest magnitude

The decimals that read back to a float form an interval around it.  The upper end
of the interval of one magnitude is the lower end of the interval of the next, half
way between the two, so of all magnitudes the one to which a decimal reads back is
the nearest.  A common end is equally near to two, and it belongs to the one with the
even significand: of two neighbours exactly one is even.
-/

namespace ShaderTree

theorem Decimal.units_eq (d : Decimal) : d.units = d.coefficient * 10 ^ d.place * 2 ^ 152 := rfl

namespace Binary32

/-- The nonnegative float with the given bits below the sign. -/
def ofMagnitude (m : Nat) : Binary32 := ⟨UInt32.ofNat m⟩

theorem magnitudeBits_lt (x : Binary32) : x.magnitudeBits < 0x80000000 :=
  Nat.mod_lt _ (by decide)

theorem magnitudeBits_ofMagnitude {m : Nat} (h : m < 0x80000000) :
    (ofMagnitude m).magnitudeBits = m := by
  simp only [magnitudeBits, ofMagnitude, UInt32.toNat_ofNat']
  omega

theorem units_eq (x : Binary32) : x.units = x.significand * 2 ^ (x.scale + 2) * 10 ^ 152 := rfl

theorem halfGapAbove_eq (x : Binary32) : x.halfGapAbove = 2 ^ (x.scale + 1) * 10 ^ 152 := rfl

/-- The largest decimal that may read back to `x`, in units. -/
def upperEnd (x : Binary32) : Nat := x.units + x.halfGapAbove

section Neighbours

variable {x y : Binary32}

theorem significand_congr (h : x.magnitudeBits = y.magnitudeBits) :
    x.significand = y.significand := by
  unfold significand exponentField fraction
  rw [h]

theorem units_congr (h : x.magnitudeBits = y.magnitudeBits) : x.units = y.units := by
  have hscale : x.scale = y.scale := by rw [scale, scale, exponentField, exponentField, h]
  rw [units, units, significand_congr h, hscale]

/-- From one magnitude to the next, either the significand grows by one or it
starts again at the next power of two. -/
theorem significand_succ (h : y.magnitudeBits = x.magnitudeBits + 1) :
    y.scale = x.scale ∧ y.significand = x.significand + 1 ∧
        (y.significand = 0x800000 → x.scale = 1) ∨
      y.scale = x.scale + 1 ∧ x.significand = 0xFFFFFF ∧ y.significand = 0x800000 := by
  unfold significand scale exponentField fraction
  rw [h]
  by_cases hfraction : x.magnitudeBits % 0x800000 + 1 < 0x800000
  · have hdiv : (x.magnitudeBits + 1) / 0x800000 = x.magnitudeBits / 0x800000 := by omega
    have hmod : (x.magnitudeBits + 1) % 0x800000 = x.magnitudeBits % 0x800000 + 1 := by omega
    rw [hdiv, hmod]
    by_cases hzero : x.magnitudeBits / 0x800000 = 0
    · rw [if_pos hzero, if_pos hzero]
      omega
    · rw [if_neg hzero, if_neg hzero]
      omega
  · have hdiv : (x.magnitudeBits + 1) / 0x800000 = x.magnitudeBits / 0x800000 + 1 := by omega
    have hmod : (x.magnitudeBits + 1) % 0x800000 = 0 := by omega
    rw [hdiv, hmod, if_neg (Nat.succ_ne_zero _)]
    by_cases hzero : x.magnitudeBits / 0x800000 = 0
    · rw [if_pos hzero]
      omega
    · rw [if_neg hzero]
      omega

theorem odd_significand_succ (h : y.magnitudeBits = x.magnitudeBits + 1) :
    x.significand % 2 = 1 ∨ y.significand % 2 = 1 := by
  rcases significand_succ h with ⟨-, hsignificand, -⟩ | ⟨-, hx, -⟩ <;> omega

/-- Two neighbours have half the distance between them in common. -/
theorem halfGapBelow_succ (h : y.magnitudeBits = x.magnitudeBits + 1) :
    y.halfGapBelow = x.halfGapAbove := by
  rcases significand_succ h with ⟨hscale, -, hpower⟩ | ⟨hscale, -, hy⟩
  · unfold halfGapBelow
    rw [if_neg, halfGapAbove, halfGapAbove, hscale]
    rintro ⟨hy, hlarge⟩
    have := hpower hy
    omega
  · have hpos : 1 ≤ x.scale := Nat.le_max_right _ _
    unfold halfGapBelow halfGapAbove
    rw [if_pos ⟨hy, by omega⟩, hscale]

/-- The interval of a magnitude begins where that of the one below ends. -/
theorem units_succ (h : y.magnitudeBits = x.magnitudeBits + 1) :
    y.units = x.upperEnd + y.halfGapBelow := by
  rw [halfGapBelow_succ h]
  rcases significand_succ h with ⟨hscale, hsignificand, -⟩ | ⟨hscale, hx, hy⟩
  · simp only [upperEnd, units_eq, halfGapAbove_eq, hscale, hsignificand]
    rw [Nat.pow_succ 2 (x.scale + 1), ← Nat.add_mul, ← Nat.add_mul]
    congr 1
    rw [Nat.add_mul]
    omega
  · simp only [upperEnd, units_eq, halfGapAbove_eq, hscale, hx, hy]
    rw [← Nat.add_mul, ← Nat.add_mul]
    congr 1
    rw [show x.scale + 1 + 2 = x.scale + 1 + 1 + 1 by rfl, Nat.pow_succ 2 (x.scale + 1 + 1),
      Nat.pow_succ 2 (x.scale + 1)]
    omega

theorem exists_magnitudeBits_eq {m : Nat} (h : m < 0x80000000) :
    ∃ z : Binary32, z.magnitudeBits = m :=
  ⟨ofMagnitude m, magnitudeBits_ofMagnitude h⟩

theorem units_le (h : x.magnitudeBits ≤ y.magnitudeBits) : x.units ≤ y.units := by
  have hlt := y.magnitudeBits_lt
  obtain ⟨n, hn⟩ := Nat.exists_eq_add_of_le h
  induction n generalizing y with
  | zero => exact Nat.le_of_eq (units_congr hn.symm)
  | succ n ih =>
      obtain ⟨z, hz⟩ := exists_magnitudeBits_eq (m := x.magnitudeBits + n) (by omega)
      have hstep := units_succ (x := z) (y := y) (by omega)
      have hxz := ih (y := z) (by omega) (by omega) (by omega)
      rw [upperEnd] at hstep
      omega

/-- A larger magnitude lies at least a gap above. -/
theorem units_add_le (h : x.magnitudeBits < y.magnitudeBits) :
    x.units + 2 * x.halfGapAbove ≤ y.units := by
  have hlt := y.magnitudeBits_lt
  obtain ⟨z, hz⟩ := exists_magnitudeBits_eq (m := x.magnitudeBits + 1) (by omega)
  have hstep := units_succ hz
  have hzy : z.units ≤ y.units := units_le (by omega)
  rw [halfGapBelow_succ hz, upperEnd] at hstep
  omega

/-- A smaller magnitude lies at least a gap below. -/
theorem add_units_le (h : x.magnitudeBits < y.magnitudeBits) :
    x.units + 2 * y.halfGapBelow ≤ y.units := by
  have hlt := y.magnitudeBits_lt
  obtain ⟨z, hz⟩ := exists_magnitudeBits_eq (m := y.magnitudeBits - 1) (by omega)
  have hsucc : y.magnitudeBits = z.magnitudeBits + 1 := by omega
  have hstep := units_succ hsucc
  have hxz : x.units ≤ z.units := units_le (by omega)
  rw [upperEnd, ← halfGapBelow_succ hsucc] at hstep
  omega

end Neighbours

section ReadsBack

variable {x y : Binary32} {d : Decimal}

/-- A decimal that reads back lies in the interval, and inside of it if the
significand is odd. -/
theorem readsBack_iff : x.readsBack d ↔
    x.units ≤ d.units + x.halfGapBelow ∧ d.units ≤ x.upperEnd ∧
      (x.significand % 2 = 1 → x.units < d.units + x.halfGapBelow ∧ d.units < x.upperEnd) := by
  unfold readsBack upperEnd
  split
  · simp only [Bool.and_eq_true, decide_eq_true_eq]
    omega
  · simp only [Bool.and_eq_true, decide_eq_true_eq]
    omega

/-- Among the magnitudes, the one to which a decimal reads back is the nearest, and
where two are equally near it is even. -/
theorem natAbs_sub_units_le (h : x.readsBack d) (hne : y.magnitudeBits ≠ x.magnitudeBits) :
    (d.units - x.units : Int).natAbs ≤ (d.units - y.units : Int).natAbs ∧
      ((d.units - x.units : Int).natAbs = (d.units - y.units : Int).natAbs →
        x.significand % 2 = 0) := by
  have habove := x.halfGapAbove_pos
  have hbelow := x.halfGapBelow_pos
  rw [readsBack_iff, upperEnd] at h
  obtain ⟨hlower, hupper, hodd⟩ := h
  rcases Nat.lt_or_gt_of_ne hne with hlt | hgt
  · have hgap := add_units_le hlt
    omega
  · have hgap := units_add_le hgt
    omega

/-- Zero reads back to no other magnitude. -/
theorem units_pos_of_readsBack (hx : x.isZero = false) (h : x.readsBack d) : 0 < d.units := by
  rw [readsBack_iff] at h
  have hsignificand : 1 ≤ x.significand := by
    simp only [isZero, decide_eq_false_iff_not] at hx
    unfold significand exponentField fraction
    split <;> omega
  have hbelow : x.halfGapBelow ≤ x.halfGapAbove := by
    unfold halfGapBelow halfGapAbove
    split
    · exact Nat.mul_le_mul_right _ (Nat.pow_le_pow_right (by decide) (by omega))
    · exact Nat.le_refl _
  have habove := x.halfGapAbove_pos
  have hunits : 2 * x.halfGapAbove ≤ x.units := by
    rw [units_eq, halfGapAbove_eq]
    calc 2 * (2 ^ (x.scale + 1) * 10 ^ 152)
        = 1 * 2 ^ (x.scale + 2) * 10 ^ 152 := by
          rw [Nat.pow_succ 2 (x.scale + 1), ← Nat.mul_assoc, Nat.one_mul, Nat.mul_comm 2]
      _ ≤ x.significand * 2 ^ (x.scale + 2) * 10 ^ 152 :=
          Nat.mul_le_mul_right _ (Nat.mul_le_mul_right _ hsignificand)
  omega

end ReadsBack

/-- A float is determined by its sign and its magnitude. -/
theorem eq_of_magnitudeBits {x y : Binary32} (hsign : x.isNegative = y.isNegative)
    (hmagnitude : x.magnitudeBits = y.magnitudeBits) : x = y := by
  have hx := x.bits.toNat_lt
  have hy := y.bits.toNat_lt
  simp only [isNegative, magnitudeBits, decide_eq_decide] at hsign hmagnitude
  have hbits : x.bits = y.bits := UInt32.toNat_inj.mp (by omega)
  cases x
  cases y
  exact congrArg mk hbits

end Binary32

end ShaderTree
