import ShaderTree.Variable
import ShaderTree.Binary32.Basic

/-!
# Operands

The expressions of a shader.  An operand is a plain tree and any tree can be
built: whether a constructor has the right number of components or a mask fits
its source is asked only when the tree is written out.

`Operand.ty` is the coarse type that is reported for an operand.  It follows the
left operand, the source of a swizzle and one argument of a call, and checks
nothing.  `Operand.equal` compares by value, with floats compared as numbers.
-/

namespace ShaderTree

inductive BinOp where
  | add
  | sub
  | mul
  | div
  | rem
  deriving DecidableEq, Repr

namespace BinOp

def symbol : BinOp → String
  | .add => "+"
  | .sub => "-"
  | .mul => "*"
  | .div => "/"
  | .rem => "%"

def all : List BinOp := [.add, .sub, .mul, .div, .rem]

def ofSymbol? (s : String) : Option BinOp := all.find? (·.symbol == s)

end BinOp

/-- The functions of the shading language that an operand may call. -/
inductive Builtin where
  | sin
  | cos
  | tan
  | asin
  | acos
  | atan
  | radians
  | degrees
  | texture2D
  | pow
  | exp
  | exp2
  | log
  | log2
  | sqrt
  | inverseSqrt
  | abs
  | sign
  | ceil
  | floor
  | fract
  | clamp
  | min
  | max
  | mod
  | step
  | smoothStep
  | mix
  deriving DecidableEq, Repr

namespace Builtin

def name : Builtin → String
  | .sin => "sin"
  | .cos => "cos"
  | .tan => "tan"
  | .asin => "asin"
  | .acos => "acos"
  | .atan => "atan"
  | .radians => "radians"
  | .degrees => "degrees"
  | .texture2D => "texture2D"
  | .pow => "pow"
  | .exp => "exp"
  | .exp2 => "exp2"
  | .log => "log"
  | .log2 => "log2"
  | .sqrt => "sqrt"
  | .inverseSqrt => "inversesqrt"
  | .abs => "abs"
  | .sign => "sign"
  | .ceil => "ceil"
  | .floor => "floor"
  | .fract => "fract"
  | .clamp => "clamp"
  | .min => "min"
  | .max => "max"
  | .mod => "mod"
  | .step => "step"
  | .smoothStep => "smoothstep"
  | .mix => "mix"

def all : List Builtin :=
  [.sin, .cos, .tan, .asin, .acos, .atan, .radians, .degrees, .texture2D, .pow, .exp, .exp2, .log,
    .log2, .sqrt, .inverseSqrt, .abs, .sign, .ceil, .floor, .fract, .clamp, .min, .max, .mod, .step,
    .smoothStep, .mix]

def ofName? (s : String) : Option Builtin := all.find? (·.name == s)

/-- The type of a call, given the types of its arguments. A texture lookup gives
a color, the two step functions follow their last argument, and every other
function follows its first. -/
def resultTy (f : Builtin) (args : List Ty) : Ty :=
  match f with
  | .texture2D => .vec4
  | .step | .smoothStep => args.getLast?.getD .float
  | _ => args.head?.getD .float

end Builtin

inductive Operand where
  | var (v : Variable)
  | int (n : Int32)
  | float (x : Binary32)
  | bool (b : Bool)
  | binop (op : BinOp) (left right : Operand)
  | vector (ty : Ty) (parts : List Operand)
  | swizzle (source : Operand) (mask : String)
  | call (f : Builtin) (args : List Operand)
  deriving Repr

namespace Operand

/-- The stage's output as an operand. -/
abbrev out : Operand := .var .output

mutual

/-- The type reported for an operand. -/
def ty : Operand → Ty
  | .var v => v.ty
  | .int _ => .int
  | .float _ => .float
  | .bool _ => .bool
  | .binop _ left _ => left.ty
  | .vector ty _ => ty
  | .swizzle source _ => source.ty
  | .call f args => f.resultTy (tys args)

/-- The types reported for several operands. -/
def tys : List Operand → List Ty
  | [] => []
  | a :: rest => a.ty :: tys rest

end

mutual

/-- Equality by value. Floats compare as numbers, so a tree that holds a NaN
differs from itself. -/
def equal : Operand → Operand → Bool
  | .var v, .var w => v = w
  | .int m, .int n => m = n
  | .float x, .float y => x.equal y
  | .bool b, .bool c => b = c
  | .binop op l r, .binop op' l' r' => op = op' && l.equal l' && r.equal r'
  | .vector ty parts, .vector ty' parts' => ty = ty' && equalAll parts parts'
  | .swizzle source mask, .swizzle source' mask' => source.equal source' && mask = mask'
  | .call f args, .call f' args' => f = f' && equalAll args args'
  | _, _ => false

/-- Equality by value, operand by operand. -/
def equalAll : List Operand → List Operand → Bool
  | [], [] => true
  | a :: rest, b :: rest' => a.equal b && equalAll rest rest'
  | _, _ => false

end

end Operand

instance : Coe Variable Operand := ⟨.var⟩

instance : Coe Binary32 Operand := ⟨.float⟩

instance : Add Operand := ⟨.binop .add⟩

instance : Sub Operand := ⟨.binop .sub⟩

instance : Mul Operand := ⟨.binop .mul⟩

instance : Div Operand := ⟨.binop .div⟩

instance : Mod Operand := ⟨.binop .rem⟩

end ShaderTree
