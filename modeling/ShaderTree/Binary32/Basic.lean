/-!
# Binary floats of 32 bits

A float literal is kept as its interchange bits: one sign bit, eight bits of
exponent, twenty-three bits of fraction.  Keeping the bits distinguishes the two
zeros and every NaN, while `equal` is the comparison of the arithmetic, in which
the zeros are one value and a NaN differs from everything.
-/

namespace ShaderTree

/-- A binary float, given by its interchange bits. -/
structure Binary32 where
  bits : UInt32
  deriving DecidableEq, Repr

namespace Binary32

/-- Whether the sign bit is set. -/
def isNegative (x : Binary32) : Bool := 0x80000000 ≤ x.bits.toNat

/-- The bits below the sign bit. -/
def magnitudeBits (x : Binary32) : Nat := x.bits.toNat % 0x80000000

def exponentField (x : Binary32) : Nat := x.magnitudeBits / 0x800000

def fraction (x : Binary32) : Nat := x.magnitudeBits % 0x800000

/-- An exponent field of all ones with a nonzero fraction. -/
def isNaN (x : Binary32) : Bool := 0x7F800000 < x.magnitudeBits

/-- An exponent field of all ones with fraction zero. -/
def isInfinite (x : Binary32) : Bool := x.magnitudeBits = 0x7F800000

def isFinite (x : Binary32) : Bool := x.magnitudeBits < 0x7F800000

def isZero (x : Binary32) : Bool := x.magnitudeBits = 0

/-- Equality of values: no NaN equals anything, and the two zeros are equal. -/
def equal (x y : Binary32) : Bool :=
  !x.isNaN && !y.isNaN && (x.bits = y.bits || (x.isZero && y.isZero))

/-- The bits with every NaN sent to the quiet positive one. -/
def canonicalBits (x : Binary32) : UInt32 := if x.isNaN then 0x7FC00000 else x.bits

def zero : Binary32 := ⟨0⟩

def one : Binary32 := ⟨0x3F800000⟩

theorem isFinite_iff (x : Binary32) : x.isFinite ↔ ¬ x.isNaN ∧ ¬ x.isInfinite := by
  simp only [isFinite, isNaN, isInfinite, decide_eq_true_eq]
  omega

end Binary32

end ShaderTree
