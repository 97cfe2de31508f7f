import ShaderTree.Program
import ShaderTree.VertexLayout

/-!
# The interface of a program

What a program reads from outside and what its stages exchange, taken from its
trees alone.  `Interface.checkDraw` compares it, name by name, with what a draw
supplies.
-/

namespace ShaderTree

structure Interface where
  attributes : OrderedSet Attribute
  uniforms : OrderedSet Uniform
  vertexVaryings : OrderedSet Varying
  fragmentVaryings : OrderedSet Varying

/-- The attributes are those of the vertex stage, the uniforms those of both. -/
def Program.interface (p : Program) : Interface :=
  let vertex := References.empty.collect p.vertex.body
  let fragment := References.empty.collect p.fragment.body
  { attributes := vertex.attributes
    uniforms := vertex.uniforms.union fragment.uniforms
    vertexVaryings := vertex.varyings
    fragmentVaryings := fragment.varyings }

/-- Where a draw and a program differ. -/
structure DrawReport where
  missingUniforms : List String
  unexpectedUniforms : List String
  missingAttributes : List String
  unexpectedAttributes : List String
  deriving DecidableEq, Repr

def DrawReport.isClean (r : DrawReport) : Bool :=
  r.missingUniforms.isEmpty && r.unexpectedUniforms.isEmpty && r.missingAttributes.isEmpty &&
    r.unexpectedAttributes.isEmpty

namespace Interface

/-- The varyings of the fragment stage that the vertex stage does not mention. -/
def unmatchedVaryings (i : Interface) : OrderedSet Varying :=
  i.fragmentVaryings.diff i.vertexVaryings

/-- Compares the names a draw supplies with those the program reads. -/
def checkDraw (i : Interface) (layout : VertexLayout) (uniforms : List String) : DrawReport :=
  let supplied := OrderedSet.ofList uniforms
  let expected := i.uniforms.image (·.name)
  let provided := OrderedSet.ofList (layout.attributes.map (·.name))
  let read := i.attributes.image (·.name)
  { missingUniforms := (expected.diff supplied).toList
    unexpectedUniforms := (supplied.diff expected).toList
    missingAttributes := (read.diff provided).toList
    unexpectedAttributes := (provided.diff read).toList }

end Interface

end ShaderTree
