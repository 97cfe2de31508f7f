import ShaderTree.Text.Blank
import ShaderTree.Text.Pattern.Complaint

/-!
# A place in a written pattern

A cursor holds what is left of a pattern and knows where in the text that is.
`Reader` moves a cursor on and may end with a complaint.

Each round of a loop reads at least one character, so the number of characters left
bounds the number of rounds.
-/

namespace ShaderTree

namespace Text

namespace Pattern

/-- The characters that are left, the place of the first of them, and whether blanks
and comments between terms are passed over. -/
structure Cursor where
  rest : List Char
  spot : Spot := {}
  verbose : Bool := false

namespace Cursor

/-- One character further. -/
def bump (c : Cursor) : Cursor :=
  match c.rest with
  | [] => c
  | '\n' :: rest => { c with rest, spot := ⟨c.spot.line + 1, 1⟩ }
  | _ :: rest => { c with rest, spot := ⟨c.spot.line, c.spot.column + 1⟩ }

/-- Past blanks, and past comments, which begin with a number sign and end with the
line. -/
def skip (c : Cursor) : Nat → Bool → Cursor
  | 0, _ => c
  | fuel + 1, inComment =>
    match c.rest with
    | [] => c
    | ch :: _ =>
      if inComment then c.bump.skip fuel (ch != '\n')
      else if isBlank ch then c.bump.skip fuel false
      else if ch == '#' then c.bump.skip fuel true
      else c

/-- Past what may stand between terms. -/
def skipBlanks (c : Cursor) : Cursor := if c.verbose then c.skip c.rest.length false else c

/-- Some characters further. -/
def bumpTimes (c : Cursor) : Nat → Cursor
  | 0 => c
  | n + 1 => c.bump.bumpTimes n

/-- The next character but one, where blanks do not count if they may stand between
terms. -/
def afterBlanks (c : Cursor) : Option Char := c.bump.skipBlanks.rest.head?

end Cursor

abbrev Reader := StateT Cursor (Except Complaint)

namespace Reader

def here : Reader Spot := return (← get).spot

def peek : Reader (Option Char) := return (← get).rest.head?

def atEnd : Reader Bool := return (← get).rest.isEmpty

def bump : Reader Unit := modify Cursor.bump

def skipBlanks : Reader Unit := modify Cursor.skipBlanks

/-- One character further, and past blanks. -/
def bumpBlanks : Reader Unit := do bump; skipBlanks

def complain {α : Type} (problem : Problem) (start stop : Spot) : Reader α :=
  throw { problem, span := ⟨start, stop⟩ }

/-- Complains of what clashes with something earlier. -/
def complainOfClash {α : Type} (problem : Problem) (span earlier : Span) : Reader α :=
  throw { problem, span, earlier := some earlier }

/-- The place of the next character. -/
def spanOfNext : Reader Span := do
  let c ← get
  return ⟨c.spot, c.bump.spot⟩

def complainHere {α : Type} (problem : Problem) : Reader α := do
  let spot ← here
  complain problem spot spot

def complainNext {α : Type} (problem : Problem) : Reader α := do
  let span ← spanOfNext
  complain problem span.start span.stop

def fuel : Reader Nat := return (← get).rest.length + 1

/-- Reads a text if it comes next, and tells whether it did. -/
def accept (text : String) : Reader Bool := do
  let c ← get
  if text.toList.isPrefixOf c.rest then
    set (c.bumpTimes text.length)
    return true
  else
    return false

/-- The characters that meet a condition, with blanks passed over after each. -/
def takeWhile (p : Char → Bool) : Nat → Reader (List Char)
  | 0 => return []
  | fuel + 1 => do
    match ← peek with
    | some c => if p c then bumpBlanks; return c :: (← takeWhile p fuel) else return []
    | none => return []

/-- Past blanks, whether they may stand between terms or not. -/
def skipAllBlanks : Nat → Reader Unit
  | 0 => return ()
  | fuel + 1 => do
    match ← peek with
    | some c => if isBlank c then bump; skipAllBlanks fuel
    | none => return ()

end Reader

end Pattern

end Text

end ShaderTree
