import ShaderTree.Text.Pattern.Basic
import ShaderTree.Text.Pattern.Complaint

/-!
# Written patterns

The terms that a written pattern consists of, with the places where they stand.
What a term means depends on the flags that are set where it stands.
-/

namespace ShaderTree

namespace Text

namespace Pattern

inductive Flag where
  | ignoreCase
  | multiLine
  | dotMatchesAll
  | swapGreed
  | allScripts
  | returns
  | verbose
  deriving DecidableEq, Repr

/-- The letter that stands for a flag. -/
def Flag.ofLetter? : Char → Option Flag
  | 'i' => some .ignoreCase
  | 'm' => some .multiLine
  | 's' => some .dotMatchesAll
  | 'U' => some .swapGreed
  | 'u' => some .allScripts
  | 'R' => some .returns
  | 'x' => some .verbose
  | _ => none

/-- The flags that a pattern sets and clears at one place. -/
structure FlagChange where
  sets : List Flag := []
  clears : List Flag := []
  deriving DecidableEq, Repr

/-- What a change says about one flag. -/
def FlagChange.about? (f : FlagChange) (flag : Flag) : Option Bool :=
  if f.sets.contains flag then some true
  else if f.clears.contains flag then some false
  else none

/-- A kind of characters that has a name of one letter. -/
inductive Kind where
  | digit
  | space
  | word
  deriving DecidableEq, Repr

def Kind.ranges : Kind → List (Nat × Nat)
  | .digit => [(0x30, 0x39)]
  | .space => [(0x9, 0xD), (0x20, 0x20)]
  | .word => [(0x30, 0x39), (0x41, 0x5A), (0x5F, 0x5F), (0x61, 0x7A)]

/-- The ASCII characters that a name stands for. -/
def asciiRanges? : String → Option (List (Nat × Nat))
  | "alnum" => some [(0x30, 0x39), (0x41, 0x5A), (0x61, 0x7A)]
  | "alpha" => some [(0x41, 0x5A), (0x61, 0x7A)]
  | "ascii" => some [(0x0, 0x7F)]
  | "blank" => some [(0x9, 0x9), (0x20, 0x20)]
  | "cntrl" => some [(0x0, 0x1F), (0x7F, 0x7F)]
  | "digit" => some [(0x30, 0x39)]
  | "graph" => some [(0x21, 0x7E)]
  | "lower" => some [(0x61, 0x7A)]
  | "print" => some [(0x20, 0x7E)]
  | "punct" => some [(0x21, 0x2F), (0x3A, 0x40), (0x5B, 0x60), (0x7B, 0x7E)]
  | "space" => some [(0x9, 0xD), (0x20, 0x20)]
  | "upper" => some [(0x41, 0x5A)]
  | "word" => some [(0x30, 0x39), (0x41, 0x5A), (0x5F, 0x5F), (0x61, 0x7A)]
  | "xdigit" => some [(0x30, 0x39), (0x41, 0x46), (0x61, 0x66)]
  | _ => none

/-- One character, as such or by its number. A number of two digits may also stand
for a byte. -/
structure Literal where
  span : Span
  char : Char
  mayBeByte : Bool := false
  deriving DecidableEq, Repr

/-- What can be done with two sets of characters. -/
inductive SetOp where
  | intersection
  | difference
  | symmetricDifference
  deriving DecidableEq, Repr

/-- A term between square brackets. -/
inductive SetTerm where
  | literal (l : Literal)
  | range (first last : Literal)
  | ascii (span : Span) (negated : Bool) (rs : List (Nat × Nat))
  | kind (span : Span) (negated : Bool) (k : Kind)
  | property (span : Span)
  | bracket (span : Span) (negated : Bool) (t : SetTerm)
  | union (ts : List SetTerm)
  | op (o : SetOp) (left right : SetTerm)
  deriving Repr

mutual

/-- The place of a term. A union without members has none. -/
def SetTerm.span? : SetTerm → Option Span
  | .literal l => some l.span
  | .range first last => some ⟨first.span.start, last.span.stop⟩
  | .ascii span _ _ | .kind span _ _ | .property span | .bracket span _ _ => some span
  | .union ts => SetTerm.spanOfList? ts
  | .op _ left right =>
    match left.span?, right.span? with
    | some l, some r => some ⟨l.start, r.stop⟩
    | l, r => l <|> r

def SetTerm.spanOfList? : List SetTerm → Option Span
  | [] => none
  | t :: ts =>
    match t.span?, SetTerm.spanOfList? ts with
    | some first, some rest => some ⟨first.start, rest.stop⟩
    | first, rest => first <|> rest

end

/-- What stands on its own in a pattern. -/
inductive Atom where
  | literal (l : Literal)
  | dot (span : Span)
  | lineStart
  | lineEnd
  | textStart
  | textEnd
  | word (span : Span) (edge : WordEdge)
  | kind (span : Span) (negated : Bool) (k : Kind)
  | property (span : Span)
  | set (span : Span) (negated : Bool) (t : SetTerm)
  deriving Repr

inductive Term where
  | atom (a : Atom)
  /-- Flags for the rest of the group. -/
  | flags (f : FlagChange)
  | group (f : FlagChange) (t : Term)
  | repeated (t : Term) (least : Nat) (most : Option Nat)
  | concat (ts : List Term)
  | alternatives (ts : List Term)
  deriving Repr

end Pattern

end Text

end ShaderTree
