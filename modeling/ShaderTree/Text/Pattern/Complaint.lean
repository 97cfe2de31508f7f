/-!
# What is wrong with a written pattern

A complaint names the problem and points at the characters that cause it, below the
line of the pattern where they stand.
-/

namespace ShaderTree

namespace Text

namespace Pattern

/-- A place in a written pattern; lines and columns count from one. -/
structure Spot where
  line : Nat := 1
  column : Nat := 1
  deriving DecidableEq, Repr

/-- The characters from one place up to another. -/
structure Span where
  start : Spot
  stop : Spot
  deriving DecidableEq, Repr

inductive Problem where
  | classEscapeInvalid
  | classRangeInvalid
  | classRangeLiteral
  | classUnclosed
  | decimalInvalid
  | hexEmpty
  | hexInvalid
  | hexInvalidDigit
  | escapeUnfinished
  | escapeUnrecognized
  | flagDanglingNegation
  | flagDuplicate
  | flagRepeatedNegation
  | flagUnfinished
  | flagUnrecognized
  | groupNameDuplicate
  | groupNameEmpty
  | groupNameInvalid
  | groupNameUnfinished
  | groupUnclosed
  | groupUnopened
  | countInvalid
  | countEmpty
  | countUnclosed
  | repetitionMissing
  | wordEdgeUnclosed
  | wordEdgeUnrecognized
  | wordEdgeUnfinished
  | propertyInvalid
  | backreference
  | lookAround
  | scriptsNotAllowed
  | brokenBytes
  | propertyNotFound
  | classNotFound
  | caseNotFound
  deriving DecidableEq, Repr

namespace Problem

def message : Problem → String
  | .classEscapeInvalid => "invalid escape sequence found in character class"
  | .classRangeInvalid => "invalid character class range, the start must be <= the end"
  | .classRangeLiteral => "invalid range boundary, must be a literal"
  | .classUnclosed => "unclosed character class"
  | .decimalInvalid => "decimal literal invalid"
  | .hexEmpty => "hexadecimal literal empty"
  | .hexInvalid => "hexadecimal literal is not a Unicode scalar value"
  | .hexInvalidDigit => "invalid hexadecimal digit"
  | .escapeUnfinished => "incomplete escape sequence, reached end of pattern prematurely"
  | .escapeUnrecognized => "unrecognized escape sequence"
  | .flagDanglingNegation => "dangling flag negation operator"
  | .flagDuplicate => "duplicate flag"
  | .flagRepeatedNegation => "flag negation operator repeated"
  | .flagUnfinished => "expected flag but got end of regex"
  | .flagUnrecognized => "unrecognized flag"
  | .groupNameDuplicate => "duplicate capture group name"
  | .groupNameEmpty => "empty capture group name"
  | .groupNameInvalid => "invalid capture group character"
  | .groupNameUnfinished => "unclosed capture group name"
  | .groupUnclosed => "unclosed group"
  | .groupUnopened => "unopened group"
  | .countInvalid => "invalid repetition count range, the start must be <= the end"
  | .countEmpty => "repetition quantifier expects a valid decimal"
  | .countUnclosed => "unclosed counted repetition"
  | .repetitionMissing => "repetition operator missing expression"
  | .wordEdgeUnclosed =>
    "special word boundary assertion is either unclosed or contains an invalid character"
  | .wordEdgeUnrecognized =>
    "unrecognized special word boundary assertion, valid choices are: start, end, start-half " ++
      "or end-half"
  | .wordEdgeUnfinished =>
    "found either the beginning of a special word boundary or a bounded repetition on a \\b " ++
      "with an opening brace, but no closing brace"
  | .propertyInvalid => "invalid Unicode character class"
  | .backreference => "backreferences are not supported"
  | .lookAround => "look-around, including look-ahead and look-behind, is not supported"
  | .scriptsNotAllowed => "Unicode not allowed here"
  | .brokenBytes => "pattern can match invalid UTF-8"
  | .propertyNotFound => "Unicode property not found"
  | .classNotFound =>
    "Unicode-aware Perl class not found (make sure the unicode-perl feature is enabled)"
  | .caseNotFound =>
    "Unicode-aware case insensitivity matching is not available " ++
      "(make sure the unicode-case feature is enabled)"

end Problem

/-- A problem, the characters that cause it, and the earlier ones that they clash
with, if any. -/
structure Complaint where
  problem : Problem
  span : Span
  earlier : Option Span := none
  deriving DecidableEq, Repr

namespace Complaint

def spaces (n : Nat) : String := String.ofList (List.replicate n ' ')

/-- A line without the carriage return that belongs to its end. -/
def withoutReturn (line : String) : String :=
  match line.toList.reverse with
  | '\x0d' :: rest => String.ofList rest.reverse
  | _ => line

/-- The lines of a pattern. A line end at the end of the text begins no further
line. -/
def lines (pattern : String) : List String :=
  let all := pattern.splitOn "\n"
  all.dropLast.map withoutReturn ++ (all.getLast?.filter (· != "")).toList

/-- The causes that stand on one line, from left to right. -/
def spansOn (c : Complaint) (line : Nat) : List Span :=
  let spans := (c.earlier.toList ++ [c.span]).filter fun s =>
    s.start.line == line && s.stop.line == line
  spans.mergeSort fun s t =>
    s.start.column < t.start.column ||
      (s.start.column == t.start.column && s.stop.column ≤ t.stop.column)

/-- Marks below the causes on one line, of which `done` columns have been passed. Each
cause has at least one mark. -/
def marks (done : Nat) : List Span → String
  | [] => ""
  | s :: rest =>
    let gap := s.start.column - 1 - done
    let width := max 1 (s.stop.column - s.start.column)
    spaces gap ++ String.ofList (List.replicate width '^') ++ marks (done + gap + width) rest

/-- The pattern line by line, each with its marks. Lines are numbered if there are
several. -/
def notated (c : Complaint) (pattern : String) : String :=
  let ls := lines pattern
  let count := if pattern.endsWith "\n" then ls.length + 1 else ls.length
  let width := if count ≤ 1 then 0 else (toString count).length
  String.join (ls.zipIdx.map fun (line, i) =>
    let number := toString (i + 1)
    let head := if width = 0 then spaces 4 else spaces (width - number.length) ++ number ++ ": "
    let below := match c.spansOn (i + 1) with
      | [] => ""
      | spans => spaces head.length ++ marks 0 spans ++ "\n"
    head ++ line ++ "\n" ++ below)

/-- Where a cause lies that covers several lines. -/
def acrossLines (s : Span) : String :=
  "on line " ++ toString s.start.line ++ " (column " ++ toString s.start.column ++
    ") through line " ++ toString s.stop.line ++ " (column " ++ toString (s.stop.column - 1) ++ ")"

/-- The complaint in words. -/
def describe (c : Complaint) (pattern : String) : String :=
  let ending := "error: " ++ c.problem.message
  if pattern.contains '\n' then
    let divider := String.ofList (List.replicate 79 '~') ++ "\n"
    let long := ([c.span] ++ c.earlier.toList).filter fun s => s.start.line != s.stop.line
    let across := if long.isEmpty then "" else "\n".intercalate (long.map acrossLines) ++ "\n"
    "regex parse error:\n" ++ divider ++ c.notated pattern ++ divider ++ across ++ ending
  else
    "regex parse error:\n" ++ c.notated pattern ++ ending

end Complaint

end Pattern

end Text

end ShaderTree
