import ShaderTree.Text.Pattern.Escape

/-!
# Sets in a written pattern

Between square brackets stand the members of a set of characters: single ones,
ranges, kinds, further sets in brackets, and operators between sets.  All operators
bind alike, and to the left.
-/

namespace ShaderTree

namespace Text

namespace Pattern

namespace Reader

/-- One pair of brackets that is being read: its terms so far, the last first, and
the operator before them with its left side. -/
structure SetLevel where
  span : Span
  negated : Bool := false
  terms : List SetTerm := []
  op : Option (SetOp × SetTerm) := none

namespace SetLevel

def push (l : SetLevel) (t : SetTerm) : SetLevel := { l with terms := t :: l.terms }

/-- What has been read between the brackets. -/
def term (l : SetLevel) : SetTerm :=
  let right := match l.terms with
    | [t] => t
    | ts => .union ts.reverse
  match l.op with
  | none => right
  | some (op, left) => .op op left right

/-- Everything so far becomes the left side of an operator. -/
def operator (l : SetLevel) (op : SetOp) : SetLevel :=
  { l with terms := [], op := some (op, l.term) }

end SetLevel

/-- Dashes at the beginning of a set, which stand for themselves. -/
def leadingDashes (start : Spot) : Nat → Reader (List SetTerm)
  | 0 => return []
  | fuel + 1 => do
    if (← peek) == some '-' then
      let span ← spanOfNext
      bumpBlanks
      if ← atEnd then
        complain .classUnclosed start start
      else
        return .literal { span, char := '-' } :: (← leadingDashes start fuel)
    else
      return []

/-- The opening bracket of a set, with what stands for itself directly after it. -/
def openSet : Reader SetLevel := do
  let start ← here
  bumpBlanks
  if ← atEnd then
    complain .classUnclosed start (← here)
  let negated := (← peek) == some '^'
  if negated then
    bumpBlanks
  if ← atEnd then
    complain .classUnclosed start (← here)
  let dashes ← leadingDashes start (← fuel)
  if dashes.isEmpty && (← peek) == some ']' then
    let span ← spanOfNext
    bumpBlanks
    if ← atEnd then
      complain .classUnclosed start (← here)
    return { span := ⟨start, ← here⟩, negated, terms := [.literal { span, char := ']' }] }
  else
    return { span := ⟨start, ← here⟩, negated, terms := dashes.reverse }

/-- The name of a set of ASCII characters between `[:` and `:]`, if there is one. -/
def asciiSet? : Reader (Option SetTerm) := do
  let before ← get
  let start := before.spot
  if ← accept "[:" then
    let negated ← accept "^"
    let inside ← get
    let name := inside.rest.takeWhile (· != ':')
    set (inside.bumpTimes name.length)
    let closed ← accept ":]"
    match closed, asciiRanges? (String.ofList name) with
    | true, some ranges => return some (.ascii ⟨start, ← here⟩ negated ranges)
    | _, _ =>
      set before
      return none
  else
    return none

/-- One end of a range in a set, or a term of its own, with its place. -/
def setItem : Reader (Atom × Span) := do
  let start ← here
  match ← peek with
  | some '\\' =>
    let atom ← escape
    return (atom, ⟨start, ← here⟩)
  | c =>
    bump
    let span := ⟨start, ← here⟩
    return (.literal { span, char := c.getD ' ' }, span)

def setTerm : Atom × Span → Reader SetTerm
  | (.literal l, _) => return .literal l
  | (.kind span negated k, _) => return .kind span negated k
  | (.property span, _) => return .property span
  | (_, span) => complain .classEscapeInvalid span.start span.stop

def setLiteral : Atom × Span → Reader Literal
  | (.literal l, _) => return l
  | (_, span) => complain .classRangeLiteral span.start span.stop

/-- A term of a set or a range of characters, in brackets that begin at `opened`. -/
def setRange (opened : Span) : Reader SetTerm := do
  let first ← setItem
  skipBlanks
  let c ← get
  if c.rest.isEmpty then
    complain .classUnclosed opened.start opened.stop
  else if c.rest.head? != some '-' || c.afterBlanks == some ']' || c.afterBlanks == some '-' then
    setTerm first
  else
    bumpBlanks
    if ← atEnd then
      complain .classUnclosed opened.start opened.stop
    let last ← setItem
    let low ← setLiteral first
    let high ← setLiteral last
    if low.char ≤ high.char then
      return .range low high
    else
      complain .classRangeInvalid first.2.start last.2.stop

/-- The operator that two equal signs make up. -/
def operator? (c : Cursor) : Option SetOp :=
  match c.rest with
  | '&' :: '&' :: _ => some .intersection
  | '-' :: '-' :: _ => some .difference
  | '~' :: '~' :: _ => some .symmetricDifference
  | _ => none

/-- A set, from inside its brackets on. -/
def setBody (outer : List SetLevel) (level : SetLevel) : Nat → Reader Atom
  | 0 => complain .classUnclosed level.span.start level.span.stop
  | fuel + 1 => do
    skipBlanks
    match operator? (← get), ← peek with
    | _, none => complain .classUnclosed level.span.start level.span.stop
    | some op, _ =>
      bump
      bump
      setBody outer (level.operator op) fuel
    | none, some '[' =>
      match ← asciiSet? with
      | some t => setBody outer (level.push t) fuel
      | none => setBody (level :: outer) (← openSet) fuel
    | none, some ']' =>
      bump
      let span := ⟨level.span.start, ← here⟩
      match outer with
      | [] => return .set span level.negated level.term
      | parent :: outer => setBody outer (parent.push (.bracket span level.negated level.term)) fuel
    | none, some _ => setBody outer (level.push (← setRange level.span)) fuel

def bracketSet : Reader Atom := do
  let level ← openSet
  setBody [] level (← fuel)

end Reader

end Pattern

end Text

end ShaderTree
