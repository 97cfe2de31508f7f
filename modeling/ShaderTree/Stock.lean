import ShaderTree.Interface

/-!
# Stock programs

Two ready programs for drawing textured shapes in the plane, one of them tinted
by a color per vertex, each with the layout of the vertices it reads.
-/

namespace ShaderTree

namespace Stock

def texture : Uniform := ⟨"u_Tex", .sampler⟩

def projection : Uniform := ⟨"u_ProjMat", .mat4⟩

def position : Attribute := ⟨"a_Pos", .vec2, false⟩

def textureCoordinate : Attribute := ⟨"a_Tex", .vec2, false⟩

/-- Four bytes of color, scaled to the unit interval when fetched. -/
def color : Attribute := ⟨"a_Col", .byte4, true⟩

def passedCoordinate : Varying := ⟨"v_Tex", .vec2⟩

def passedColor : Varying := ⟨"v_Col", .vec4⟩

def sample : Temp := ⟨0, .vec4⟩

def tinted : Temp := ⟨1, .vec4⟩

/-- Projects the position and passes the coordinate on, and the color if there
is one. -/
def vertexBody (colored : Bool) : Build Unit := do
  Build.set (.var passedCoordinate) (.var textureCoordinate)
  if colored then
    Build.set (.var passedColor) (.var color)
  Build.set .out
    (.var projection * .vector .vec4 [.var position, .float .zero, .float .one])

def lookup : Operand := .call .texture2D [.var texture, .var passedCoordinate]

def texturedFragmentBody : Build Unit := Build.set .out lookup

def coloredFragmentBody : Build Unit := do
  Build.set (.var sample) lookup
  Build.set (.var tinted) (.var sample * .var passedColor)
  Build.set .out (.var tinted)

def textured : Program :=
  { id := ⟨0⟩, name := "textured"
    vertex := (Shader.build (vertexBody false)).value
    fragment := (Shader.build texturedFragmentBody).value }

def texturedColored : Program :=
  { id := ⟨1⟩, name := "textured-colored"
    vertex := (Shader.build (vertexBody true)).value
    fragment := (Shader.build coloredFragmentBody).value }

/-- A stock program with the layout of its vertices. -/
structure Entry where
  program : Program
  layout : VertexLayout

def all : List Entry :=
  [⟨textured, ⟨[position, textureCoordinate]⟩⟩,
    ⟨texturedColored, ⟨[position, textureCoordinate, color]⟩⟩]

def names : List String := all.map (·.program.name)

def find? (name : String) : Option Entry := all.find? (·.program.name == name)

/-- The supply from which all other programs take their identity. -/
def supply : Supply := ⟨⟨2⟩⟩

end Stock

end ShaderTree
