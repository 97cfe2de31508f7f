import ShaderTree.Text.Pattern.Reader

/-!
# What a written pattern means

The meaning of a term depends on the flags in force where it stands.  A change of
flags holds for the rest of its group, also in the branches that follow.

The letters and digits of all scripts, and their cases, are not known here.  A term
that asks for them is refused, unless the flag that lets a pattern speak of all
scripts has been cleared: then such terms mean ASCII characters only, and no term
may stand for a part of a character.
-/

namespace ShaderTree

namespace Text

namespace Pattern

/-- The flags in force. -/
structure Flags where
  ignoreCase : Bool := false
  multiLine : Bool := false
  dotMatchesAll : Bool := false
  allScripts : Bool := true
  returns : Bool := false
  deriving DecidableEq, Repr

namespace Flags

def apply (f : Flags) (change : FlagChange) : Flags where
  ignoreCase := (change.about? .ignoreCase).getD f.ignoreCase
  multiLine := (change.about? .multiLine).getD f.multiLine
  dotMatchesAll := (change.about? .dotMatchesAll).getD f.dotMatchesAll
  allScripts := (change.about? .allScripts).getD f.allScripts
  returns := (change.about? .returns).getD f.returns

/-- Where a line starts. Unless there may be several, only the whole text does. -/
def lineStart (f : Flags) : Look :=
  if !f.multiLine then .textStart else if f.returns then .lineStartReturn else .lineStart

/-- Where a line ends. -/
def lineEnd (f : Flags) : Look :=
  if !f.multiLine then .textEnd else if f.returns then .lineEndReturn else .lineEnd

end Flags

def refuse {α : Type} (problem : Problem) (span : Span) : Except Complaint α :=
  .error { problem, span }

namespace Literal

/-- The character that a literal stands for. Without all scripts it has to be one of
ASCII, and no other byte. -/
def meaning (f : Flags) (l : Literal) : Except Complaint Char :=
  if f.allScripts || l.char.toNat < 128 then .ok l.char
  else refuse (if l.mayBeByte then .brokenBytes else .scriptsNotAllowed) l.span

end Literal

/-- A set with both cases of its letters, if they do not count, and turned into its
complement, if asked. -/
def foldAndNegate (f : Flags) (span : Span) (negated : Bool) (s : CharSet) :
    Except Complaint CharSet :=
  if f.ignoreCase && f.allScripts then
    refuse .caseNotFound span
  else
    let folded := if f.ignoreCase then s.bothCases else s
    .ok (if negated then folded.complement else folded)

/-- The characters of a kind. -/
def kindMeaning (f : Flags) (span : Span) (negated : Bool) (k : Kind) :
    Except Complaint CharSet :=
  if f.allScripts then
    refuse .classNotFound span
  else if negated then
    refuse .brokenBytes span
  else
    .ok (.ranges k.ranges)

/-- A property is known by no name, and without all scripts there is none. -/
def propertyMeaning (f : Flags) (span : Span) : Except Complaint CharSet :=
  refuse (if f.allScripts then .propertyNotFound else .scriptsNotAllowed) span

/-- The cases of one side of an operator count as little as those of the whole set. -/
def sideMeaning (f : Flags) (span : Option Span) (s : CharSet) : Except Complaint CharSet :=
  match span with
  | none => .ok s
  | some span => foldAndNegate f span false s

namespace SetTerm

mutual

def meaning (f : Flags) : SetTerm → Except Complaint CharSet
  | .literal l => do return .single (← l.meaning f)
  | .range first last => do
    let first ← first.meaning f
    let last ← last.meaning f
    return .ranges [(first.toNat, last.toNat)]
  | .ascii span negated rs => foldAndNegate f span negated (.ranges rs)
  | .kind span negated k => kindMeaning f span negated k
  | .property span => propertyMeaning f span
  | .bracket span negated t => do
    let s ← t.meaning f
    foldAndNegate f span negated s
  | .union ts => meaningOfList f ts
  | .op o left right => do
    let l ← left.meaning f
    let r ← right.meaning f
    let r ← sideMeaning f right.span? r
    let l ← sideMeaning f left.span? l
    match o with
    | .intersection => return l.intersection r
    | .difference => return l.difference r
    | .symmetricDifference => return l.symmetricDifference r

def meaningOfList (f : Flags) : List SetTerm → Except Complaint CharSet
  | [] => .ok .empty
  | t :: ts => do
    let s ← t.meaning f
    return s.union (← meaningOfList f ts)

end

end SetTerm

namespace Atom

def meaning (f : Flags) : Atom → Except Complaint Pattern
  | .literal l => do
    let c ← l.meaning f
    return .one (← foldAndNegate f l.span false (.single c))
  | .dot span =>
    if !f.allScripts then
      refuse .brokenBytes span
    else if f.dotMatchesAll then
      .ok (.one (.complement .empty))
    else
      .ok (.one (.complement (.ranges ((10, 10) :: if f.returns then [(13, 13)] else []))))
  | .lineStart => .ok (.look f.lineStart)
  | .lineEnd => .ok (.look f.lineEnd)
  | .textStart => .ok (.look .textStart)
  | .textEnd => .ok (.look .textEnd)
  | .word _ edge => .ok (.look (.word edge f.allScripts))
  | .kind span negated k => do return .one (← kindMeaning f span negated k)
  | .property span => do return .one (← propertyMeaning f span)
  | .set span negated t => do
    let s ← t.meaning f
    let s ← foldAndNegate f span negated s
    if !f.allScripts && !s.isAscii then
      refuse .brokenBytes span
    else
      return .one s

end Atom

namespace Term

mutual

/-- The pattern that a term means, and the flags in force after it. -/
def meaning (f : Flags) : Term → Except Complaint (Pattern × Flags)
  | .atom a => do return (← a.meaning f, f)
  | .flags change => .ok (.empty, f.apply change)
  | .group change t => do
    let (p, _) ← t.meaning (f.apply change)
    return (p, f)
  | .repeated t least most => do
    let (p, f) ← t.meaning f
    return (.repeated p least most, f)
  | .concat ts => row f ts
  | .alternatives ts => choice f ts

/-- Terms one after the other. -/
def row (f : Flags) : List Term → Except Complaint (Pattern × Flags)
  | [] => .ok (.empty, f)
  | t :: ts => do
    let (p, f) ← t.meaning f
    let (q, f) ← row f ts
    return (.seq p q, f)

/-- Terms of which one is to be found. -/
def choice (f : Flags) : List Term → Except Complaint (Pattern × Flags)
  | [] => .ok (.one .empty, f)
  | t :: ts => do
    let (p, f) ← t.meaning f
    let (q, f) ← choice f ts
    return (.either p q, f)

end

end Term

/-- Reads a pattern, or says in words why it cannot be used. -/
def ofText (text : String) : Except String Pattern :=
  match Term.ofText text >>= Term.meaning {} with
  | .error complaint => .error (complaint.describe text)
  | .ok (p, _) => if p.asksForWords then .error "error building NFA" else .ok p

end Pattern

end Text

end ShaderTree
