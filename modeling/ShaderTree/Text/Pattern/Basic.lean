import ShaderTree.Text.CharClass

/-!
# Patterns and where they occur

A pattern describes pieces of a text.  Matching works on sets of places: `reach`
takes the places where a piece may begin to the places where it may end.  A set of
places is a number whose bit `i` stands for the place before character `i`, so a
text of `n` characters has places `0` to `n`.

A repetition without an upper bound need not be followed further than the text is
long: a round that does not move on can be left out.
-/

namespace ShaderTree

namespace Text

/-- A set of characters. -/
inductive CharSet where
  | ranges (rs : List (Nat × Nat))
  | complement (s : CharSet)
  | union (s t : CharSet)
  | intersection (s t : CharSet)
  /-- The set with both cases of every ASCII letter in it. -/
  | bothCases (s : CharSet)
  deriving Repr

namespace CharSet

def empty : CharSet := .ranges []

def single (c : Char) : CharSet := .ranges [(c.toNat, c.toNat)]

def difference (s t : CharSet) : CharSet := .intersection s (.complement t)

def symmetricDifference (s t : CharSet) : CharSet := .union (s.difference t) (t.difference s)

def contains : CharSet → Char → Bool
  | .ranges rs, c => inRanges rs c
  | .complement s, c => !s.contains c
  | .union s t, c => s.contains c || t.contains c
  | .intersection s t, c => s.contains c && t.contains c
  | .bothCases s, c => s.contains c || s.contains c.toLower || s.contains c.toUpper

/-- Whether no character of one byte is in the set but an ASCII one. -/
def isAscii (s : CharSet) : Bool :=
  (List.range 128).all fun n => !s.contains (Char.ofNat (128 + n))

end CharSet

/-- Places at, or next to, a word. -/
inductive WordEdge where
  | boundary
  | inside
  | start
  | stop
  | startHalf
  | stopHalf
  deriving DecidableEq, Repr

/-- Conditions on a place in a text. -/
inductive Look where
  | textStart
  | textEnd
  | lineStart
  | lineEnd
  | lineStartReturn
  | lineEndReturn
  | word (edge : WordEdge) (allScripts : Bool)
  deriving DecidableEq, Repr

inductive Pattern where
  | empty
  | one (s : CharSet)
  | look (l : Look)
  | seq (p q : Pattern)
  | either (p q : Pattern)
  | repeated (p : Pattern) (least : Nat) (most : Option Nat)
  deriving Repr

namespace WordEdge

/-- Whether a place between a character of a word, or not one, and another has the
edge. -/
def holds (before after : Bool) : WordEdge → Bool
  | .boundary => before != after
  | .inside => before == after
  | .start => !before && after
  | .stop => before && !after
  | .startHalf => !before
  | .stopHalf => !after

end WordEdge

namespace Look

/-- Whether a place between two characters, either of which may be missing, meets
the condition. -/
def holds (before after : Option Char) : Look → Bool
  | .textStart => before.isNone
  | .textEnd => after.isNone
  | .lineStart => before.isNone || before == some '\n'
  | .lineEnd => after.isNone || after == some '\n'
  | .lineStartReturn =>
    before.isNone || before == some '\n' || (before == some '\x0d' && after != some '\n')
  | .lineEndReturn =>
    after.isNone || after == some '\x0d' || (after == some '\n' && before != some '\x0d')
  | .word edge _ => edge.holds (before.any isWordChar) (after.any isWordChar)

/-- The places of a text that meet the condition, where `before` is the character
before the text. -/
def places (l : Look) (before : Option Char) : List Char → Nat
  | [] => (l.holds before none).toNat
  | c :: rest => (l.holds before (some c)).toNat + 2 * places l (some c) rest

end Look

/-- The places of a text before a character of the set. -/
def CharSet.places (s : CharSet) : List Char → Nat
  | [] => 0
  | c :: rest => (s.contains c).toNat + 2 * s.places rest

/-- Applies a function some number of times. Once a value is kept, it stays. -/
def times {α : Type} [DecidableEq α] (f : α → α) : Nat → α → α
  | 0, a => a
  | n + 1, a =>
    let b := f a
    if b = a then a else times f n b

namespace Pattern

/-- The places where the pattern may end if it begins at one of the given places. -/
def reach (text : List Char) : Pattern → Nat → Nat
  | .empty, starts => starts
  | .one s, starts => (starts &&& s.places text) <<< 1
  | .look l, starts => starts &&& l.places none text
  | .seq p q, starts => q.reach text (p.reach text starts)
  | .either p q, starts => p.reach text starts ||| q.reach text starts
  | .repeated p least most, starts =>
    let rounds := text.length + 1
    let more := match most with
      | some most => min (most - least) rounds
      | none => rounds
    times (fun places => places ||| p.reach text places) more
      (times (p.reach text) (min least rounds) starts)

/-- Whether the pattern describes some piece of the text. -/
def occursIn (p : Pattern) (text : String) : Bool :=
  p.reach text.toList (1 <<< (text.length + 1) - 1) != 0

/-- Whether a condition of the pattern asks for the words of all scripts. -/
def asksForWords : Pattern → Bool
  | .empty | .one _ => false
  | .look (.word _ allScripts) => allScripts
  | .look _ => false
  | .seq p q | .either p q => p.asksForWords || q.asksForWords
  | .repeated p _ _ => p.asksForWords

end Pattern

end Text

end ShaderTree
