import ShaderTree.Text.Pattern.Bracket

/-!
# Reading a written pattern

A pattern is read from left to right.  Every character stands for itself but those
with a meaning of their own.  Groups that are still open wait in a list, the
innermost first.
-/

namespace ShaderTree

namespace Text

namespace Pattern

namespace Reader

/-! ## Groups -/

/-- A group that is being read: its opening, the flags it sets, what was read before
it, and whether blanks were passed over there. -/
structure GroupLevel where
  opened : Span
  change : FlagChange
  verbose : Bool
  branches : List Term
  terms : List Term

/-- One term for terms in a row, the last first. -/
def row : List Term → Term
  | [t] => t
  | ts => .concat ts.reverse

/-- One term for branches, the last first. -/
def choice : List Term → Term
  | [t] => t
  | ts => .alternatives ts.reverse

structure FlagItem where
  span : Span
  flag : Option Flag

/-- Flags up to the end of a group's opening; no flag and no sign may come twice. -/
def flagItems (items : List FlagItem) : Nat → Reader (List FlagItem)
  | 0 => complainHere .flagUnfinished
  | fuel + 1 => do
    match ← peek with
    | some ':' | some ')' => return items
    | some c =>
      let span ← spanOfNext
      let flag ← if c == '-' then pure none else
        match Flag.ofLetter? c with
        | some flag => pure (some flag)
        | none => complainNext .flagUnrecognized
      match items.find? (·.flag == flag) with
      | some earlier =>
        complainOfClash (if flag.isNone then .flagRepeatedNegation else .flagDuplicate) span
          earlier.span
      | none =>
        bump
        if ← atEnd then
          complainHere .flagUnfinished
        else
          flagItems (items ++ [⟨span, flag⟩]) fuel
    | none => complainHere .flagUnfinished

/-- The change that flags make; those after the sign are cleared. -/
def flagChange : Reader (Option FlagChange) := do
  let items ← flagItems [] (← fuel)
  match items.getLast? with
  | none => return none
  | some ⟨span, none⟩ => complain .flagDanglingNegation span.start span.stop
  | some _ =>
    return some
      { sets := (items.takeWhile (·.flag.isSome)).filterMap (·.flag)
        clears := (items.dropWhile (·.flag.isSome)).filterMap (·.flag) }

/-- The characters of a group's name, up to the closing bracket. -/
def groupName (first : Bool) : Nat → Reader (List Char)
  | 0 => complainHere .groupNameUnfinished
  | fuel + 1 => do
    match ← peek with
    | none => complainHere .groupNameUnfinished
    | some '>' => return []
    | some c =>
      let fits := c.isAlpha || c == '_' || 128 ≤ c.toNat ||
        (!first && (c.isDigit || c == '.' || c == '[' || c == ']'))
      if fits then
        bump
        return c :: (← groupName false fuel)
      else
        complainNext .groupNameInvalid

/-- What the opening of a group says. -/
inductive Opening where
  | flags (change : FlagChange)
  | group (change : FlagChange) (name : Option (String × Span))

def opening (opened : Span) : Reader Opening := do
  bump
  skipBlanks
  if ← accept "?=" <||> accept "?!" <||> accept "?<=" <||> accept "?<!" then
    complain .lookAround opened.start (← here)
  let inner ← here
  if ← accept "?P<" <||> accept "?<" then
    let start ← here
    let name ← groupName true (← fuel)
    let stop ← here
    bump
    if name.isEmpty then
      complain .groupNameEmpty start start
    else
      return .group {} (some (String.ofList name, ⟨start, stop⟩))
  else if ← accept "?" then
    if ← atEnd then
      complain .groupUnclosed opened.start opened.stop
    let change ← flagChange
    let closing ← peek
    bump
    match closing, change with
    | some ')', none => complain .repetitionMissing inner inner
    | some ')', some change => return .flags change
    | _, change => return .group (change.getD {}) none
  else
    return .group {} none

/-! ## Repetitions -/

/-- Past the question mark that makes a repetition prefer fewer rounds. Where a
pattern occurs does not depend on it. -/
def preference : Reader Unit := do
  if (← peek) == some '?' then
    bump

/-- A count of rounds in braces. -/
def count : Reader (Nat × Option Nat) := do
  let start ← here
  bumpBlanks
  if ← atEnd then
    complain .countUnclosed start (← here)
  let least ← decimal
  if ← atEnd then
    complain .countUnclosed start (← here)
  let (least, most) ← (do
    if (← peek) == some ',' then
      bumpBlanks
      if ← atEnd then
        complain .countUnclosed start (← here)
      if (← peek) == some '\x7d' then
        return (← liftExcept least, none)
      else
        let least ← liftExcept least
        return (least, some (← liftExcept (← decimal)))
    else
      let least ← liftExcept least
      return (least, some least) : Reader (Nat × Option Nat))
  if (← peek) != some '\x7d' then
    complain .countUnclosed start (← here)
  bumpBlanks
  preference
  if most.any (· < least) then
    complain .countInvalid start (← here)
  else
    return (least, most)
where
  liftExcept {α : Type} : Except Complaint α → Reader α
    | .ok a => return a
    | .error c => throw c

/-- The rounds that a sign asks for. -/
def rounds : Char → Reader (Nat × Option Nat)
  | '?' => do bump; preference; return (0, some 1)
  | '*' => do bump; preference; return (0, none)
  | '+' => do bump; preference; return (1, none)
  | _ => count

/-! ## The whole pattern -/

/-- What stands on its own. -/
def atom : Char → Reader Atom
  | '\\' => escape
  | '[' => bracketSet
  | '^' => do bump; return .lineStart
  | '$' => do bump; return .lineEnd
  | c => do
    let span ← spanOfNext
    bump
    return if c == '.' then .dot span else .literal { span, char := c }

/-- The rest of the pattern, after groups that are still open, the finished branches
of the innermost one and the terms of its current branch, the last of each first. -/
def body (names : List (String × Span)) (outer : List GroupLevel) (branches terms : List Term) :
    Nat → Reader Term
  | 0 => complainHere .groupUnclosed
  | fuel + 1 => do
    skipBlanks
    match ← peek with
    | none =>
      match outer with
      | [] => return choice (row terms :: branches)
      | level :: _ => complain .groupUnclosed level.opened.start level.opened.stop
    | some '(' =>
      let opened ← spanOfNext
      let verbose := (← get).verbose
      match ← opening opened with
      | .flags change =>
        modify fun c => { c with verbose := (change.about? .verbose).getD verbose }
        body names outer branches (.flags change :: terms) fuel
      | .group change name =>
        let earlier := name.bind fun (n, _) => names.find? (·.1 == n)
        match name, earlier with
        | some (_, span), some (_, first) => complainOfClash .groupNameDuplicate span first
        | _, _ =>
          modify fun c => { c with verbose := (change.about? .verbose).getD verbose }
          let level : GroupLevel := { opened, change, verbose, branches, terms }
          body (names ++ name.toList) (level :: outer) [] [] fuel
    | some ')' =>
      match outer with
      | [] => complainNext .groupUnopened
      | level :: outer =>
        bump
        modify fun c => { c with verbose := level.verbose }
        body names outer level.branches
          (.group level.change (choice (row terms :: branches)) :: level.terms) fuel
    | some '|' =>
      bump
      body names outer (row terms :: branches) [] fuel
    | some c =>
      if c == '?' || c == '*' || c == '+' || c == '\x7b' then
        match terms with
        | [] | .flags _ :: _ => complainHere .repetitionMissing
        | t :: terms =>
          let (least, most) ← rounds c
          body names outer branches (.repeated t least most :: terms) fuel
      else
        body names outer branches (.atom (← atom c) :: terms) fuel

end Reader

/-- The term that a text writes, or what is wrong with it. -/
def Term.ofText (text : String) : Except Complaint Term := do
  let (term, _) ← (Reader.body [] [] [] [] (text.length + 1)).run { rest := text.toList }
  return term

end Pattern

end Text

end ShaderTree
