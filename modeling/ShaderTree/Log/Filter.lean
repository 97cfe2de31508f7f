import ShaderTree.Log
import ShaderTree.Text.Blank
import ShaderTree.Text.Terminal
import ShaderTree.Text.Pattern.Meaning

/-!
# Which records are shown

Every part of the program speaks under the name of a target.  A filter is a list
of directives separated by commas.  A directive is a level, a target, or both as
`target=level`; a target alone admits every level.  For each record the directive
with the longest target that begins the speaker's own decides, and without any
directive only errors are shown.  After a slash the filter may end with a pattern,
and then only messages are shown in which it occurs.

What cannot be read is left out with a warning.
-/

namespace ShaderTree

namespace Log

namespace Level

def all : List Level := [.error, .warn, .info, .debug, .trace]

/-- How far a level is from the most important one. -/
def rank : Level → Nat
  | .error => 1
  | .warn => 2
  | .info => 3
  | .debug => 4
  | .trace => 5

end Level

/-- Records whose target begins with `target`, or all records without one, are shown
up to the level of rank `limit`. -/
structure Directive where
  target : Option String
  limit : Nat
  deriving DecidableEq, Repr

namespace Directive

/-- How much of a speaker's name the directive asks for. -/
def length (d : Directive) : Nat := (d.target.map String.utf8ByteSize).getD 0

def concerns (d : Directive) (target : String) : Bool :=
  d.target.all fun begin => begin.toList.isPrefixOf target.toList

/-- The rank that a level's name, in any case, stands for. `off` admits nothing. -/
def limit? (word : String) : Option Nat :=
  let upper := word.map Char.toUpper
  if upper = "OFF" then some 0 else (Level.all.find? (·.label == upper)).map Level.rank

/-- Reads one directive, or tells which text cannot be read. -/
def ofText (text : String) : Except String Directive :=
  match text.splitOn "=" with
  | [word] =>
    match limit? word with
    | some limit => .ok ⟨none, limit⟩
    | none => .ok ⟨some word, Level.trace.rank⟩
  | [target, level] =>
    match Text.trim level with
    | "" => .ok ⟨some target, Level.trace.rank⟩
    | level =>
      match limit? level with
      | some limit => .ok ⟨some target, limit⟩
      | none => .error level
  | _ => .error text

/-- Adds a directive. One for the same target gives it its place. -/
def insert (ds : List Directive) (d : Directive) : List Directive :=
  if ds.any (·.target == d.target) then
    ds.map fun old => if old.target == d.target then d else old
  else
    ds ++ [d]

/-- Of two directives for a record the one with the longer target, and of equally
long ones the later. -/
def closer (best : Option Directive) (d : Directive) : Option Directive :=
  match best with
  | none => some d
  | some b => if b.length ≤ d.length then some d else some b

end Directive

structure Filter where
  directives : List Directive
  pattern : Option Text.Pattern := none

namespace Filter

/-- Only errors are shown. -/
def onlyErrors : List Directive := [⟨none, Level.error.rank⟩]

/-- Reads directives, and tells which texts cannot be read. -/
def readDirectives (text : String) : List Directive × List String :=
  let words := ((text.splitOn ",").map Text.trim).filter (· != "")
  words.foldl (fun (ds, unread) word =>
    match Directive.ofText word with
    | .ok d => (Directive.insert ds d, unread)
    | .error part => (ds, unread ++ [part])) ([], [])

/-- What is wrong with a directive. -/
def unreadable (part : String) : String := "invalid logging spec '" ++ part ++ "'"

/-- A filter from its directives and its pattern. -/
def ofParts (directives : String) (pattern : Option String) : Filter × List String :=
  let (ds, unread) := readDirectives directives
  let filter : Filter := { directives := if ds.isEmpty then onlyErrors else ds }
  match pattern.map Text.Pattern.ofText with
  | none => (filter, unread.map unreadable)
  | some (.ok pattern) => ({ filter with pattern }, unread.map unreadable)
  | some (.error why) =>
    (filter, unread.map unreadable ++ ["invalid regex filter - " ++ why])

/-- Reads a filter, and tells what is wrong with it. -/
def ofText (text : String) : Filter × List String :=
  match text.splitOn "/" with
  | [directives] => ofParts directives none
  | [directives, pattern] => ofParts directives (some pattern)
  | _ => ({ directives := onlyErrors }, [unreadable text ++ " (too many '/'s)"])

def warning (problem : String) : String := "warning: " ++ problem ++ ", ignoring it\n"

/-- The filter of a setting that may be missing, and the warnings it calls for. -/
def ofSetting (setting : Option String) : Filter × String :=
  let (filter, problems) := ofText (setting.getD "")
  (filter, String.join (problems.map warning))

def admits (f : Filter) (target : String) (r : Record) : Bool :=
  match (f.directives.filter (·.concerns target)).foldl Directive.closer none with
  | some d => r.level.rank ≤ d.limit && f.pattern.all (·.occursIn r.message)
  | none => false

/-- A record as the command shows it: the level in five columns, the target, and
the message with its further lines indented, all without terminal controls. -/
def show? (f : Filter) (target : String) (r : Record) : Option String :=
  if f.admits target r then
    let level := r.level.label ++ String.ofList (List.replicate (5 - r.level.label.length) ' ')
    let message := "\n    ".intercalate (r.message.splitOn "\n")
    some (Text.Terminal.strip ("[" ++ level ++ " " ++ target ++ "] " ++ message ++ "\n"))
  else
    none

/-- The records of one speaker that are shown, as text. -/
def render (f : Filter) (target : String) (log : List Record) : String :=
  String.join (log.filterMap (f.show? target))

end Filter

end Log

end ShaderTree
