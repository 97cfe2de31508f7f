import ShaderTree.Operand
import ShaderTree.Glsl.Fault

/-!
# Types of values and the checks that use them

`Operand.valueTy` is the type the shading language gives to an operand's value.
Unlike the coarse `Operand.ty` it knows that a swizzle has as many components as
its mask has letters, that a matrix times a vector is a vector, and that a scalar
takes the shape of what it is combined with.

Two checks rest on it.  A constructor takes one operand of any shape, or operands
whose components add up to its own.  A mask selects one to four components, all
named from the same set, none beyond those the source has.
-/

namespace ShaderTree

namespace BinOp

/-- The type of a combination of two values. -/
def valueTy (op : BinOp) (left right : Ty) : Ty :=
  if left = right then
    left
  else
    match op, left, right with
    | .mul, .mat4, .vec4 | .mul, .mat4, .byte4 => .vec4
    | .mul, .vec4, .mat4 | .mul, .byte4, .mat4 => .vec4
    | _, _, _ => if left.isScalar && !right.isScalar then right else left

end BinOp

namespace Operand

mutual

/-- The type of an operand's value. -/
def valueTy : Operand → Ty
  | .var v => v.ty
  | .int _ => .int
  | .float _ => .float
  | .bool _ => .bool
  | .binop op left right => op.valueTy left.valueTy right.valueTy
  | .vector ty _ => ty
  | .swizzle source mask => (Ty.floatVector? mask.length).getD source.valueTy
  | .call f args => f.resultTy (valueTys args)

/-- The types of the values of several operands. -/
def valueTys : List Operand → List Ty
  | [] => []
  | a :: rest => a.valueTy :: valueTys rest

end

theorem valueTys_eq_map (args : List Operand) : valueTys args = args.map valueTy := by
  induction args with
  | nil => rfl
  | cons a rest ih => simp [valueTys, ih]

end Operand

namespace Glsl

/-- The word that declares a value of type `ty`, wanted for what is called `name`. -/
def typeName (ty : Ty) (name : String) : Except Fault String :=
  match ty.glslName? with
  | some word => .ok word
  | none => .error (.undeclarable ty name)

/-- The letters that name components: of a position, a color, a texture
coordinate. -/
def componentSets : List (List Char) :=
  [['x', 'y', 'z', 'w'], ['r', 'g', 'b', 'a'], ['s', 't', 'p', 'q']]

/-- The set to which a letter belongs. -/
def componentSet? (c : Char) : Option (List Char) := componentSets.find? (c ∈ ·)

/-- What is wrong with one letter of a mask over `set`, of which the source has
the first `count` components. -/
def letterProblem? (set : List Char) (count : Nat) (c : Char) : Option MaskProblem :=
  match set.idxOf? c with
  | some i => if i < count then none else some (.outOfRange c)
  | none => some (.mixedSets c)

/-- What is wrong with selecting `mask` from a value of type `ty`. The set is
fixed by the first letter, and the first bad letter is reported. -/
def maskProblem? (ty : Ty) (mask : String) : Option MaskProblem :=
  if !ty.isSwizzleable then
    some .noComponents
  else if mask.length = 0 || 4 < mask.length then
    some (.length mask.length)
  else
    match mask.toList with
    | [] => none
    | first :: rest =>
      match componentSet? first with
      | none => some (.notAComponent first)
      | some set => (first :: rest).findSome? (letterProblem? set ty.elementCount)

def checkMask (ty : Ty) (mask : String) : Except Fault Unit :=
  match maskProblem? ty mask with
  | none => .ok ()
  | some problem => .error (.badMask mask ty problem)

/-- Whether values of the given types can be put together to one of type `ty`. -/
def checkParts (ty : Ty) (parts : List Ty) : Except Fault Unit :=
  let found := parts.foldl (· + ·.elementCount) 0
  if parts.length = 1 ∨ found = ty.elementCount then
    .ok ()
  else
    .error (.componentCount ty ty.elementCount found)

end Glsl

end ShaderTree
