import ShaderTree.Binary32.Decimal

/-!
# Float literals

A finite float is written with its shortest digits.  If its leading digit stands
between the fourth place after the point and the sixteenth before it, the digits
are written in place, with at least one on either side of the point; otherwise
one digit is written before the point and a power of ten follows.  The sign is
always kept, also that of zero.
-/

namespace ShaderTree

namespace Decimal

/-- The digits from the first to the last that is not zero. -/
def significantDigits (d : Decimal) : List Char :=
  ((Nat.toDigits 10 d.coefficient).reverse.dropWhile (· == '0')).reverse

/-- The power of ten at which the first digit stands. -/
def leadingExponent (d : Decimal) : Int :=
  ((Nat.toDigits 10 d.coefficient).length + d.place : Int) - 153

end Decimal

namespace Binary32

/-- The powers of ten at which the first digit of a number written in place may
stand. -/
def isWrittenInPlace (exponent : Int) : Bool := -4 ≤ exponent && exponent < 16

/-- Digits written in place, the first at the given power of ten. -/
def inPlace (digits : List Char) : Int → List Char
  | .ofNat e =>
    let whole := digits.take (e + 1)
    let rest := digits.drop (e + 1)
    whole ++ List.replicate (e + 1 - whole.length) '0' ++ '.' :: (if rest.isEmpty then ['0'] else rest)
  | .negSucc e => '0' :: '.' :: List.replicate e '0' ++ digits

/-- Digits with a power of ten: the first, then the others after a point. -/
def withExponent (digits : List Char) (exponent : Int) : List Char :=
  let rest := digits.drop 1
  digits.take 1 ++ (if rest.isEmpty then [] else '.' :: rest) ++ 'e' :: (toString exponent).toList

/-- The magnitude of a finite float as text. -/
def magnitudeText (x : Binary32) : List Char :=
  if x.isZero then
    ['0', '.', '0']
  else
    let d := x.shortest
    if isWrittenInPlace d.leadingExponent then
      inPlace d.significantDigits d.leadingExponent
    else
      withExponent d.significantDigits d.leadingExponent

/-- A finite float as text: its sign, if it has one, and its magnitude. -/
def numeral (x : Binary32) : List Char :=
  if x.isNegative then '-' :: x.magnitudeText else x.magnitudeText

/-- Adds a point to a text that would be read as an integer for want of a point or
a power of ten. -/
def withPoint (text : List Char) : List Char :=
  if '.' ∈ text ∨ 'e' ∈ text ∨ 'E' ∈ text then text else text ++ ['.', '0']

/-- The literal that denotes `x`; an infinity or a NaN has none. -/
def literal? (x : Binary32) : Option String :=
  if x.isFinite then some (String.ofList (withPoint x.numeral)) else none

/-- How a value without a literal is reported. -/
def nonFiniteLabel (x : Binary32) : String :=
  if x.isNaN then "NaN" else if x.isNegative then "-inf" else "inf"

end Binary32

end ShaderTree
