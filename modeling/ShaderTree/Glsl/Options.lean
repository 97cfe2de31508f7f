/-!
# Options of the written source

The dialect and the default precisions.  They decide the lines that open a
source and nothing else.
-/

namespace ShaderTree

namespace Glsl

/-- Desktop sources guard the precision lines, which only the embedded dialect
knows. -/
inductive Dialect where
  | desktop
  | es
  deriving DecidableEq, Repr

def Dialect.label : Dialect → String
  | .desktop => "Desktop"
  | .es => "Es"

inductive Precision where
  | low
  | medium
  | high
  deriving DecidableEq, Repr

namespace Precision

def label : Precision → String
  | .low => "Low"
  | .medium => "Medium"
  | .high => "High"

def qualifier : Precision → String
  | .low => "lowp"
  | .medium => "mediump"
  | .high => "highp"

def all : List Precision := [.low, .medium, .high]

end Precision

structure Options where
  dialect : Dialect := .desktop
  floatPrecision : Precision := .medium
  intPrecision : Precision := .medium
  samplerPrecision : Precision := .low
  deriving DecidableEq, Repr, Inhabited

namespace Options

/-- The default options, for embedded devices or for the desktop. -/
def gles (embedded : Bool) : Options := { dialect := if embedded then .es else .desktop }

def isGles (o : Options) : Bool := o.dialect = .es

/-- The options as they appear in messages. -/
def describe (o : Options) : String :=
  "GlslOptions \x7b dialect: " ++ o.dialect.label ++
    ", float_precision: " ++ o.floatPrecision.label ++
    ", int_precision: " ++ o.intPrecision.label ++
    ", sampler_precision: " ++ o.samplerPrecision.label ++ " \x7d"

def precisionLine (p : Precision) (type : String) : String :=
  "precision " ++ p.qualifier ++ " " ++ type ++ ";\n"

/-- The lines that set the default precisions. -/
def precisionLines (o : Options) : String :=
  precisionLine o.floatPrecision "float" ++ precisionLine o.intPrecision "int" ++
    precisionLine o.samplerPrecision "sampler2D" ++ precisionLine o.samplerPrecision "samplerCube"

/-- The lines that open a source. -/
def preamble (o : Options) : String :=
  match o.dialect with
  | .desktop => "#ifdef GL_ES\n" ++ o.precisionLines ++ "#endif\n"
  | .es => o.precisionLines

end Options

end Glsl

end ShaderTree
