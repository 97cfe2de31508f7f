import ShaderTree.Text.Pattern.Cursor
import ShaderTree.Text.Pattern.Term

/-!
# Escapes in a written pattern

A backslash takes the meaning away from a character that has one of its own, and
gives one to most letters: a character by its number, a kind of characters, or a
condition on a place.
-/

namespace ShaderTree

namespace Text

namespace Pattern

namespace Reader

/-! ## Numbers -/

def isHexDigit (c : Char) : Bool :=
  c.isDigit || ('a' ≤ c && c ≤ 'f') || ('A' ≤ c && c ≤ 'F')

def hexValue (c : Char) : Nat :=
  if c.isDigit then c.toNat - 48 else if 'a' ≤ c then c.toNat - 87 else c.toNat - 55

/-- The character with a number in hexadecimal digits. -/
def charOfHex? (digits : List Char) : Option Char :=
  let n := digits.foldl (fun n c => 16 * n + hexValue c) 0
  if n.isValidChar then some (Char.ofNat n) else none

def maxCount : Nat := 4294967295

/-- A decimal number, or what to complain of if one is needed. -/
def decimal : Reader (Except Complaint Nat) := do
  skipAllBlanks (← fuel)
  let start ← here
  let digits ← takeWhile Char.isDigit (← fuel)
  let stop ← here
  skipAllBlanks (← fuel)
  let n := digits.foldl (fun n c => 10 * n + (c.toNat - 48)) 0
  if digits.isEmpty then
    return .error { problem := .countEmpty, span := ⟨start, stop⟩ }
  else if maxCount < n then
    return .error { problem := .decimalInvalid, span := ⟨start, stop⟩ }
  else
    return .ok n

/-- A given number of hexadecimal digits. -/
def hexDigits : Nat → Bool → Reader (List Char)
  | 0, _ => return []
  | count + 1, first => do
    if !first then
      bumpBlanks
    match ← peek with
    | none => complainHere .escapeUnfinished
    | some c =>
      if isHexDigit c then
        return c :: (← hexDigits count false)
      else
        complainNext .hexInvalidDigit

/-- Hexadecimal digits up to a closing brace. -/
def bracedDigits (brace : Spot) : Nat → Reader (List Char)
  | 0 => complainHere .escapeUnfinished
  | fuel + 1 => do
    bumpBlanks
    match ← peek with
    | none => complain .escapeUnfinished brace (← here)
    | some '\x7d' => return []
    | some c =>
      if isHexDigit c then
        return c :: (← bracedDigits brace fuel)
      else
        complainNext .hexInvalidDigit

/-- A character by its number, after the letter that announces so many digits. -/
def hex (count : Nat) : Reader Char := do
  bumpBlanks
  match ← peek with
  | none => complainHere .escapeUnfinished
  | some '\x7b' => do
    let brace ← here
    let start := (← spanOfNext).stop
    let digits ← bracedDigits brace (← fuel)
    let stop ← here
    bumpBlanks
    if digits.isEmpty then
      complain .hexEmpty brace (← here)
    else
      match charOfHex? digits with
      | some c => return c
      | none => complain .hexInvalid start stop
  | some _ => do
    let start ← here
    let digits ← hexDigits count true
    bumpBlanks
    match charOfHex? digits with
    | some c => return c
    | none => complain .hexInvalid start (← here)

/-! ## Escapes -/

/-- Up to a closing brace, whatever stands there. -/
def bracedName : Nat → Reader Unit
  | 0 => complainHere .escapeUnfinished
  | fuel + 1 => do
    bumpBlanks
    match ← peek with
    | none => complainHere .escapeUnfinished
    | some '\x7d' => bump
    | some _ => bracedName fuel

/-- The name of a property of characters. -/
def property : Reader Unit := do
  bumpBlanks
  match ← peek with
  | none => complainHere .escapeUnfinished
  | some '\x7b' => bracedName (← fuel)
  | some '\\' => complainNext .propertyInvalid
  | some _ => bumpBlanks

/-- Characters that have a meaning of their own. -/
def isMeta (c : Char) : Bool := "\\.+*?()|[]\x7b\x7d^$#&-~".toList.contains c

/-- Characters that a backslash leaves as they are. -/
def isEscapable (c : Char) : Bool :=
  isMeta c || (c.toNat < 128 && !c.isAlphanum && c != '<' && c != '>')

/-- The control characters that have a letter. -/
def control? : Char → Option Char
  | 'a' => some '\x07'
  | 'f' => some '\x0c'
  | 't' => some '\t'
  | 'n' => some '\n'
  | 'r' => some '\x0d'
  | 'v' => some '\x0b'
  | _ => none

def edge? : String → Option WordEdge
  | "start" => some .start
  | "end" => some .stop
  | "start-half" => some .startHalf
  | "end-half" => some .stopHalf
  | _ => none

/-- The edge that stands in braces after a `\b` at `start`. What cannot be the name
of one is left for a count of repetitions. -/
def bracedEdge (start : Spot) : Reader WordEdge := do
  let before ← get
  let isNameChar (c : Char) : Bool := c.isAlpha || c == '-'
  bumpBlanks
  match ← peek with
  | none => complain .wordEdgeUnfinished start (← here)
  | some c =>
    if isNameChar c then
      let contents ← here
      let name ← takeWhile isNameChar (← fuel)
      match ← peek with
      | some '\x7d' =>
        let stop ← here
        bump
        match edge? (String.ofList name) with
        | some edge => return edge
        | none => complain .wordEdgeUnrecognized contents stop
      | _ => complain .wordEdgeUnclosed before.spot (← here)
    else
      set before
      return .boundary

/-- What a letter or a sign after a backslash stands for. -/
def escaped (start : Spot) (c : Char) : Reader Atom := do
  bump
  let span : Span := ⟨start, ← here⟩
  if isEscapable c then
    return .literal { span, char := c }
  else
    match control? c, c with
    | some control, _ => return .literal { span, char := control }
    | none, 'A' => return .textStart
    | none, 'z' => return .textEnd
    | none, 'B' => return .word span .inside
    | none, '<' => return .word span .start
    | none, '>' => return .word span .stop
    | none, 'b' =>
      if (← peek) == some '\x7b' then
        let edge ← bracedEdge start
        return .word ⟨start, ← here⟩ edge
      else
        return .word span .boundary
    | none, _ => complain .escapeUnrecognized start span.stop

def kindOf? : Char → Option (Kind × Bool)
  | 'd' => some (.digit, false)
  | 'D' => some (.digit, true)
  | 's' => some (.space, false)
  | 'S' => some (.space, true)
  | 'w' => some (.word, false)
  | 'W' => some (.word, true)
  | _ => none

/-- How many digits follow a letter that announces a number. -/
def hexCount? : Char → Option Nat
  | 'x' => some 2
  | 'u' => some 4
  | 'U' => some 8
  | _ => none

/-- What stands at a backslash. -/
def escape : Reader Atom := do
  let start ← here
  bump
  match ← peek with
  | none => complain .escapeUnfinished start (← here)
  | some c =>
    if c.isDigit then
      complain .backreference start (← spanOfNext).stop
    else if c == 'p' || c == 'P' then
      property
      return .property ⟨start, ← here⟩
    else
      match hexCount? c, kindOf? c with
      | some count, _ =>
        let braced := (← get).bump.skipBlanks.rest.head? == some '\x7b'
        let char ← hex count
        return .literal { span := ⟨start, ← here⟩, char, mayBeByte := c == 'x' && !braced }
      | none, some (kind, negated) =>
        bump
        return .kind ⟨start, ← here⟩ negated kind
      | none, none => escaped start c

end Reader

end Pattern

end Text

end ShaderTree
