import ShaderTree.Ty

/-!
# Variables

Named storage that a shader refers to.  Attributes enter per vertex, varyings
pass from the vertex stage to the fragment stage, uniforms hold for a whole
draw, temporaries are local to one run, and every stage has one output.

Variables are compared by value: two attributes that differ only in
normalization are different variables.
-/

namespace ShaderTree

/-- A per-vertex input. Fixed-point data of a normalized attribute is scaled to
the unit interval when it is fetched. -/
structure Attribute where
  name : String
  ty : Ty
  normalized : Bool
  deriving DecidableEq, Repr

/-- A value interpolated between the vertex and the fragment stage. -/
structure Varying where
  name : String
  ty : Ty
  deriving DecidableEq, Repr

/-- A value that the caller binds for a whole draw. -/
structure Uniform where
  name : String
  ty : Ty
  deriving DecidableEq, Repr

/-- A local value, known by its number. -/
structure Temp where
  id : UInt32
  ty : Ty
  deriving DecidableEq, Repr

def Temp.name (t : Temp) : String := "temp" ++ toString t.id.toNat

inductive Variable where
  | attribute (a : Attribute)
  | varying (v : Varying)
  | uniform (u : Uniform)
  | temp (t : Temp)
  | output
  deriving DecidableEq, Repr

namespace Variable

def ty : Variable → Ty
  | .attribute a => a.ty
  | .varying v => v.ty
  | .uniform u => u.ty
  | .temp t => t.ty
  | .output => .vec4

/-- The name of a variable where the output is called `output`. -/
def spelling (output : String) : Variable → String
  | .attribute a => a.name
  | .varying v => v.name
  | .uniform u => u.name
  | .temp t => t.name
  | .output => output

/-- The declared name. The output is not declared and goes by `out`. -/
def name (v : Variable) : String := v.spelling "out"

theorem spelling_eq_name {v : Variable} (hv : v ≠ .output) (output : String) :
    v.spelling output = v.name := by
  cases v
  case output => exact absurd rfl hv
  all_goals rfl

end Variable

instance : Coe Attribute Variable := ⟨.attribute⟩

instance : Coe Varying Variable := ⟨.varying⟩

instance : Coe Uniform Variable := ⟨.uniform⟩

instance : Coe Temp Variable := ⟨.temp⟩

end ShaderTree
