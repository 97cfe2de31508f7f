import ShaderTree.Statement

/-!
# Walks over a tree

A walk meets the nodes of a tree one by one, each before its parts and the parts
from left to right: the target of an assignment before its source, a condition
before the branches.  What happens at a node is up to the caller, who gives an
action in any monad; an action that throws ends the walk.

`record` is the walk that writes down what it meets and may stop after a given
number of notes.
-/

namespace ShaderTree

/-- One meeting of a walk with a node. A variable is met three times: as an
operand, as a variable, and as the kind of variable it is. -/
inductive Visit where
  | statement (s : Statement)
  | block (body : List Statement)
  | assign (target source : Operand)
  | conditional (condition : Operand) (hasElse : Bool)
  | operand (o : Operand)
  | variable (v : Variable)
  | attribute (a : Attribute)
  | varying (v : Varying)
  | uniform (u : Uniform)
  | temp (t : Temp)
  | output
  | int (n : Int32)
  | float (x : Binary32)
  | bool (b : Bool)
  | binop (op : BinOp) (left right : Operand)
  | vector (ty : Ty) (parts : List Operand)
  | swizzle (source : Operand) (mask : String)
  | call (f : Builtin) (args : List Operand)

namespace Visit

/-- Whether the node has no parts of its own. -/
def isLeaf : Visit → Bool
  | .attribute _ | .varying _ | .uniform _ | .temp _ | .output | .int _ | .float _ | .bool _ => true
  | _ => false

/-- The visit to a variable as the kind of variable it is. -/
def ofVariable : Variable → Visit
  | .attribute a => .attribute a
  | .varying v => .varying v
  | .uniform u => .uniform u
  | .temp t => .temp t
  | .output => .output

def unwords (words : List String) : String := " ".intercalate words

/-- A visit in words. -/
def describe : Visit → String
  | .statement _ => "stm"
  | .block body => unwords ["stms", toString body.length]
  | .assign target source => unwords ["set", target.ty.label, source.ty.label]
  | .conditional _ hasElse => unwords ["if", toString hasElse]
  | .operand o => unwords ["operand", o.ty.label]
  | .variable v => unwords ["variable", v.name, v.ty.label]
  | .attribute a => unwords ["attribute", a.name, a.ty.label, toString a.normalized]
  | .varying v => unwords ["varying", v.name, v.ty.label]
  | .uniform u => unwords ["uniform", u.name, u.ty.label]
  | .temp t => unwords ["temp", t.name, t.ty.label]
  | .output => "output"
  | .int n => unwords ["int", toString n.toInt]
  | .float x => unwords ["float", toString x.canonicalBits.toNat]
  | .bool b => unwords ["bool", toString b]
  | .binop op _ _ => unwords ["binop", op.symbol]
  | .vector ty parts => unwords ["vector", ty.label, toString parts.length]
  | .swizzle _ mask => unwords ["swizzle", mask]
  | .call f args => unwords ["func", f.name, toString args.length]

end Visit

variable {m : Type → Type} [Monad m]

namespace Operand

mutual

/-- Acts on every visit of an operand. -/
def walk (act : Visit → m Unit) : Operand → m Unit
  | .var v => do
    act (.operand (.var v))
    act (.variable v)
    act (.ofVariable v)
  | .int n => do
    act (.operand (.int n))
    act (.int n)
  | .float x => do
    act (.operand (.float x))
    act (.float x)
  | .bool b => do
    act (.operand (.bool b))
    act (.bool b)
  | .binop op left right => do
    act (.operand (.binop op left right))
    act (.binop op left right)
    left.walk act
    right.walk act
  | .vector ty parts => do
    act (.operand (.vector ty parts))
    act (.vector ty parts)
    walkAll act parts
  | .swizzle source mask => do
    act (.operand (.swizzle source mask))
    act (.swizzle source mask)
    source.walk act
  | .call f args => do
    act (.operand (.call f args))
    act (.call f args)
    walkAll act args

/-- Acts on every visit of several operands, one operand after another. -/
def walkAll (act : Visit → m Unit) : List Operand → m Unit
  | [] => pure ()
  | o :: rest => do
    o.walk act
    walkAll act rest

end

end Operand

namespace Statement

mutual

/-- Acts on every visit of a statement. -/
def walk (act : Visit → m Unit) : Statement → m Unit
  | .block body => do
    act (.statement (.block body))
    act (.block body)
    walkAll act body
  | .assign target source => do
    act (.statement (.assign target source))
    act (.assign target source)
    target.walk act
    source.walk act
  | .ifThen condition body => do
    act (.statement (.ifThen condition body))
    act (.conditional condition false)
    condition.walk act
    body.walk act
  | .ifThenElse condition body otherwise => do
    act (.statement (.ifThenElse condition body otherwise))
    act (.conditional condition true)
    condition.walk act
    body.walk act
    otherwise.walk act

/-- Acts on every visit of several statements, one statement after another. -/
def walkAll (act : Visit → m Unit) : List Statement → m Unit
  | [] => pure ()
  | s :: rest => do
    s.walk act
    walkAll act rest

end

end Statement

/-- What a recording walk wrote down, and the visit at which it stopped, if it
did. -/
structure Recording where
  visits : List Visit
  stoppedAt : Option Visit

namespace Recording

/-- The monad of a recording walk: notes are kept when it stops. -/
abbrev RecordM := ExceptT Visit (StateM (Array Visit))

/-- Notes a visit of the chosen kind, and stops when that makes `stop` notes. -/
def note (chosen : Visit → Bool) (stop : Option Nat) (v : Visit) : RecordM Unit := do
  if chosen v then
    modify (·.push v)
    if stop = some (← get).size then
      throw v

def ofWalk (walk : RecordM Unit) : Recording :=
  match walk.run #[] with
  | (.ok _, notes) => ⟨notes.toList, none⟩
  | (.error v, notes) => ⟨notes.toList, some v⟩

end Recording

def Operand.record (chosen : Visit → Bool) (stop : Option Nat) (o : Operand) : Recording :=
  .ofWalk (o.walk (Recording.note chosen stop))

def Statement.record (chosen : Visit → Bool) (stop : Option Nat) (s : Statement) : Recording :=
  .ofWalk (s.walk (Recording.note chosen stop))

end ShaderTree
