import ShaderTree.References
import ShaderTree.Stage
import ShaderTree.Glsl.Typing

/-!
# Drafts

A draft is what has been written of a tree so far: its text, the variables that
were mentioned, and the fault at which writing stopped, if it did.  Drafts are
put one after another; whatever would follow a fault is not written any more.

`Operand.draft` and `Statement.draft` write a tree for one stage.  The check of a
constructor or a swizzle stands before the draft of its parts, so of two faults
the outer one is found first, and otherwise the left one.
-/

namespace ShaderTree

namespace Glsl

structure Draft where
  text : String := ""
  mentions : List Variable := []
  fault : Option Fault := none

namespace Draft

/-- One draft after another. A fault in the first ends the draft. -/
def append (a b : Draft) : Draft :=
  match a.fault with
  | some _ => a
  | none => ⟨a.text ++ b.text, a.mentions ++ b.mentions, b.fault⟩

instance : Append Draft := ⟨append⟩

/-- Plain text. -/
def write (text : String) : Draft := { text }

/-- Nothing but a fault. -/
def refuse (fault : Fault) : Draft := { fault }

/-- The text that a check lets through. -/
def ofExcept : Except Fault String → Draft
  | .ok text => write text
  | .error fault => refuse fault

/-- Passes or fails a check without writing anything. -/
def require : Except Fault Unit → Draft
  | .ok _ => {}
  | .error fault => refuse fault

/-- A literal, in parentheses if it is negative, so that a sign never follows an
operator. -/
def literal (text : String) : Draft :=
  if text.toList.head? = some '-' then write ("(" ++ text ++ ")") else write text

/-- A mention of a variable. An attribute exists in the vertex stage only. -/
def ofVariable : Stage → Variable → Draft
  | .fragment, .attribute a => refuse (.attributeInFragment a.name)
  | stage, v => { text := v.spelling stage.outputName, mentions := [v] }

def ofFloat (x : Binary32) : Draft :=
  match x.literal? with
  | some text => literal text
  | none => refuse (.nonFinite x)

theorem append_of_fault {a : Draft} {f : Fault} (h : a.fault = some f) (b : Draft) : a ++ b = a := by
  change a.append b = a
  simp [append, h]

theorem append_of_no_fault {a : Draft} (h : a.fault = none) (b : Draft) :
    a ++ b = ⟨a.text ++ b.text, a.mentions ++ b.mentions, b.fault⟩ := by
  change a.append b = _
  simp [append, h]

end Draft

end Glsl

namespace Operand

open Glsl

mutual

/-- An operand written for one stage. -/
def draft (stage : Stage) : Operand → Draft
  | .var v => .ofVariable stage v
  | .int n => .literal (toString n.toInt)
  | .float x => .ofFloat x
  | .bool b => .write (toString b)
  | .binop op left right =>
    .write "(" ++ left.draft stage ++ .write op.symbol ++ right.draft stage ++ .write ")"
  | .vector ty parts =>
    .ofExcept (typeName ty "vector constructor") ++ .require (checkParts ty (valueTys parts)) ++
      .write "(" ++ draftAll stage "," parts ++ .write ")"
  | .swizzle source mask =>
    .require (checkMask source.valueTy mask) ++ source.draft stage ++ .write ("." ++ mask)
  | .call f args => .write (f.name ++ "(") ++ draftAll stage ", " args ++ .write ")"

/-- Several operands with a separator between them. -/
def draftAll (stage : Stage) (separator : String) : List Operand → Draft
  | [] => {}
  | [o] => o.draft stage
  | o :: p :: rest => o.draft stage ++ .write separator ++ draftAll stage separator (p :: rest)

end

end Operand

namespace Statement

open Glsl

mutual

/-- A statement written for one stage. -/
def draft (stage : Stage) : Statement → Draft
  | .block body => .write "\x7b" ++ draftAll stage body ++ .write "\x7d"
  | .assign target source =>
    target.draft stage ++ .write " = " ++ source.draft stage ++ .write ";"
  | .ifThen condition body =>
    .write "if (" ++ condition.draft stage ++ .write ") " ++ body.draft stage
  | .ifThenElse condition body otherwise =>
    .write "if (" ++ condition.draft stage ++ .write ") " ++ body.draft stage ++
      .write " else " ++ otherwise.draft stage

/-- Several statements, one directly after another. -/
def draftAll (stage : Stage) : List Statement → Draft
  | [] => {}
  | s :: rest => s.draft stage ++ draftAll stage rest

end

end Statement

end ShaderTree
