/-!
# Pipeline stages

A shader runs either once per vertex or once per fragment.  Each stage has one
mandatory output, a builtin variable of the shading language.
-/

namespace ShaderTree

inductive Stage where
  | vertex
  | fragment
  deriving DecidableEq, Repr

namespace Stage

def label : Stage → String
  | .vertex => "vertex"
  | .fragment => "fragment"

/-- The builtin variable that receives the stage's output. -/
def outputName : Stage → String
  | .vertex => "gl_Position"
  | .fragment => "gl_FragColor"

end Stage

end ShaderTree
