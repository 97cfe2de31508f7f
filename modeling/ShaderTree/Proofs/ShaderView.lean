import ShaderTree.Statement

/-!
# What a shader sees of a tree

Four bytes arrive in a shader as a vector of four floats, and whether an attribute
was normalized when it was fetched is not written anywhere.  The view of a tree
replaces the one type by the other and forgets normalization, in every variable
and every constructor.  Nothing else changes, so a variable keeps its name.
-/

namespace ShaderTree

/-- The type that a value has in a shader. -/
def Ty.shaderView : Ty → Ty
  | .byte4 => .vec4
  | ty => ty

namespace Variable

/-- A variable with the type that it has in a shader. -/
def shaderView : Variable → Variable
  | .attribute a => .attribute ⟨a.name, a.ty.shaderView, false⟩
  | .varying v => .varying ⟨v.name, v.ty.shaderView⟩
  | .uniform u => .uniform ⟨u.name, u.ty.shaderView⟩
  | .temp t => .temp ⟨t.id, t.ty.shaderView⟩
  | .output => .output

@[simp] theorem spelling_shaderView (output : String) (v : Variable) :
    v.shaderView.spelling output = v.spelling output := by
  cases v <;> rfl

end Variable

namespace Operand

mutual

/-- An operand with the types that its parts have in a shader. -/
def shaderView : Operand → Operand
  | .var v => .var v.shaderView
  | .int n => .int n
  | .float x => .float x
  | .bool b => .bool b
  | .binop op left right => .binop op left.shaderView right.shaderView
  | .vector ty parts => .vector ty.shaderView (shaderViewAll parts)
  | .swizzle source mask => .swizzle source.shaderView mask
  | .call f args => .call f (shaderViewAll args)

/-- The views of several operands. -/
def shaderViewAll : List Operand → List Operand
  | [] => []
  | o :: rest => o.shaderView :: shaderViewAll rest

end

end Operand

namespace Statement

mutual

/-- A statement with the types that its parts have in a shader. -/
def shaderView : Statement → Statement
  | .block body => .block (shaderViewAll body)
  | .assign target source => .assign target.shaderView source.shaderView
  | .ifThen condition body => .ifThen condition.shaderView body.shaderView
  | .ifThenElse condition body otherwise =>
    .ifThenElse condition.shaderView body.shaderView otherwise.shaderView

/-- The views of several statements. -/
def shaderViewAll : List Statement → List Statement
  | [] => []
  | s :: rest => s.shaderView :: shaderViewAll rest

end

end Statement

end ShaderTree
