/-!
# Text without terminal controls

A text that is meant to be read must not steer the terminal that shows it.
`Terminal.strip` leaves out every control sequence and every control character
other than those that only move on: the tab, the ends of lines and of pages, and
the carriage return.

A sequence begins with the escape character; what follows tells how it ends.  One
that is never finished takes everything after it along.
-/

namespace ShaderTree

namespace Text

namespace Terminal

/-- The part of a control sequence that has been begun, or `none`. -/
inductive Sequence where
  | none
  /-- Only the escape character has been read. -/
  | escape
  /-- An escape sequence that names its final character later. -/
  | escapeBody
  /-- A sequence of parameters that ends with a letter. -/
  | control
  /-- A device control string: nothing of it, its parameters, or its qualifiers. -/
  | deviceStart
  | deviceParameters
  | deviceQualifiers
  /-- A string that ends with the string terminator. -/
  | string
  /-- A command to the system, which a bell ends too. -/
  | command
  deriving DecidableEq, Repr

def between (first last c : Char) : Bool := first ≤ c && c ≤ last

def isEscape (c : Char) : Bool := c == '\x1b'

/-- The two characters that break off any sequence. -/
def isCancel (c : Char) : Bool := c == '\x18' || c == '\x1a'

/-- Control characters that only move on. -/
def isMove (c : Char) : Bool := c == '\t' || c == '\n' || c == '\x0c' || c == '\x0d'

/-- Characters that are shown outside of sequences. -/
def isShown (c : Char) : Bool := between ' ' '~' c || isMove c || '\u0080' ≤ c

/-- Whether the string terminator is one of the bytes that encode a character. -/
def holdsTerminator (c : Char) : Bool := (String.utf8EncodeChar c).contains 0x9C

namespace Sequence

/-- Whether characters that only move on are obeyed in the middle of a sequence. -/
def obeysMoves : Sequence → Bool
  | .none | .escape | .escapeBody | .control => true
  | _ => false

/-- What is begun after one more character of a sequence. -/
def next (s : Sequence) (c : Char) : Sequence :=
  match s with
  | .none => .none
  | .escape =>
    if between ' ' '/' c then .escapeBody
    else if c == '[' then .control
    else if c == ']' then .command
    else if c == 'P' then .deviceStart
    else if c == 'X' || c == '^' || c == '_' then .string
    else if between '0' '~' c then .none
    else .escape
  | .escapeBody => if between '0' '~' c then .none else .escapeBody
  | .control => if between '@' '~' c then .none else .control
  | .deviceStart =>
    if between ' ' '/' c then .deviceQualifiers
    else if between '0' '?' c then .deviceParameters
    else if between '@' '~' c then .string
    else .deviceStart
  | .deviceParameters =>
    if between ' ' '/' c then .deviceQualifiers
    else if between '<' '~' c then .string
    else .deviceParameters
  | .deviceQualifiers => if between '0' '~' c then .string else .deviceQualifiers
  | .string => if '\u0080' ≤ c && holdsTerminator c then .none else .string
  | .command => if c == '\x07' then .none else .command

end Sequence

/-- The sequence that has been begun, and whether text is being shown. A character
that only moves on starts to show text in the middle of a sequence, which is taken
up again at the next character that is not shown. -/
structure State where
  pending : Sequence := .none
  showing : Bool := false
  deriving DecidableEq, Repr

namespace State

/-- Reads one character and tells whether it is shown. -/
def step (s : State) (c : Char) : State × Bool :=
  if isEscape c then
    (⟨.escape, false⟩, false)
  else if isCancel c then
    (⟨.none, false⟩, false)
  else if s.showing && isShown c then
    (⟨if '\u0080' ≤ c then .none else s.pending, true⟩, true)
  else if (s.pending == .none && isShown c) || (s.pending.obeysMoves && isMove c) then
    (⟨s.pending, true⟩, true)
  else
    (⟨s.pending.next c, false⟩, false)

end State

/-- The characters that are shown, from a state on. -/
def shown (s : State) : List Char → List Char
  | [] => []
  | c :: rest =>
    let (s, keep) := s.step c
    if keep then c :: shown s rest else shown s rest

/-- A text without what would steer a terminal. -/
def strip (s : String) : String := String.ofList (shown {} s.toList)

end Terminal

end Text

end ShaderTree
