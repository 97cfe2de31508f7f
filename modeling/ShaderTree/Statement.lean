import ShaderTree.Operand

/-!
# Statements

A shader's body is a tree of blocks, assignments and conditionals.  The branches
of a conditional may be any statement, not only blocks.
-/

namespace ShaderTree

inductive Statement where
  | block (body : List Statement)
  | assign (target source : Operand)
  | ifThen (condition : Operand) (body : Statement)
  | ifThenElse (condition : Operand) (body otherwise : Statement)
  deriving Repr

namespace Statement

mutual

/-- Equality by value, with floats compared as numbers. -/
def equal : Statement → Statement → Bool
  | .block ss, .block ts => equalAll ss ts
  | .assign target source, .assign target' source' =>
    target.equal target' && source.equal source'
  | .ifThen c s, .ifThen c' s' => c.equal c' && s.equal s'
  | .ifThenElse c s t, .ifThenElse c' s' t' => c.equal c' && s.equal s' && t.equal t'
  | _, _ => false

/-- Equality by value, statement by statement. -/
def equalAll : List Statement → List Statement → Bool
  | [], [] => true
  | s :: rest, t :: rest' => s.equal t && equalAll rest rest'
  | _, _ => false

end

end Statement

end ShaderTree
