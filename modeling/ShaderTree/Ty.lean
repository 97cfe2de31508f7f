/-!
# Value types

The types a shader variable or operand can have, with what a vertex buffer and
the shading language need to know of each: its size in bytes, its number of
elements, the kind of one element, and its name in the language.
-/

namespace ShaderTree

/-- The type of a variable or an operand. -/
inductive Ty where
  | bool
  | int
  | float
  | vec2
  | vec3
  | vec4
  | mat4
  | byte4
  | sampler
  deriving DecidableEq, Repr, Inhabited

/-- What one element of a value is in a vertex buffer. -/
inductive ElementKind where
  | float
  | int
  | unsignedByte
  deriving DecidableEq, Repr

def ElementKind.label : ElementKind → String
  | .float => "Float"
  | .int => "Int"
  | .unsignedByte => "UnsignedByte"

namespace Ty

/-- The name a type is reported under. -/
def label : Ty → String
  | .bool => "Bool1"
  | .int => "Int1"
  | .float => "Float1"
  | .vec2 => "Float2"
  | .vec3 => "Float3"
  | .vec4 => "Float4"
  | .mat4 => "Mat4"
  | .byte4 => "Byte4"
  | .sampler => "TextureUnit"

def byteSize : Ty → Nat
  | .bool => 1
  | .int => 4
  | .float => 4
  | .vec2 => 8
  | .vec3 => 12
  | .vec4 => 16
  | .mat4 => 64
  | .byte4 => 4
  | .sampler => 4

def elementCount : Ty → Nat
  | .bool => 1
  | .int => 1
  | .float => 1
  | .vec2 => 2
  | .vec3 => 3
  | .vec4 => 4
  | .mat4 => 16
  | .byte4 => 4
  | .sampler => 1

def kind : Ty → ElementKind
  | .int | .sampler => .int
  | .float | .vec2 | .vec3 | .vec4 | .mat4 => .float
  | .bool | .byte4 => .unsignedByte

/-- The word a declaration of this type begins with. Four bytes arrive in a
shader as a vector of four floats, and the two types without a word cannot be
declared. -/
def glslName? : Ty → Option String
  | .float => some "float"
  | .vec2 => some "vec2"
  | .vec3 => some "vec3"
  | .vec4 | .byte4 => some "vec4"
  | .mat4 => some "mat4"
  | .sampler => some "sampler2D"
  | .bool | .int => none

/-- Whether components of a value can be selected by a mask. -/
def isSwizzleable : Ty → Bool
  | .float | .vec2 | .vec3 | .vec4 | .byte4 => true
  | .bool | .int | .mat4 | .sampler => false

def isScalar (ty : Ty) : Bool := ty.elementCount == 1

/-- The float type with the given number of components. -/
def floatVector? : Nat → Option Ty
  | 1 => some .float
  | 2 => some .vec2
  | 3 => some .vec3
  | 4 => some .vec4
  | _ => none

theorem byteSize_pos (ty : Ty) : 0 < ty.byteSize := by
  cases ty <;> decide

theorem elementCount_pos (ty : Ty) : 0 < ty.elementCount := by
  cases ty <;> decide

end Ty

end ShaderTree
