import ShaderTree.Stage
import ShaderTree.Glsl.Options

/-!
# Arguments of the command

The command is given as `emit PROGRAM` with switches, or as `layout PROGRAM`.  A
switch is written with two dashes and its name, or with one dash and its letter;
letters may be joined.  A switch with a value takes it from the same argument,
after an equals sign or directly after its letter, or from the next argument.
After two dashes alone every argument is taken as it stands.

Arguments are read in order into a draft of the request, and reading ends at the
first one that does not fit or that asks for help.  Whether something is missing
is asked only after the last one.
-/

namespace ShaderTree

namespace Command

inductive Switch where
  | stage
  | gles
  | floatPrecision
  | output
  | verbose
  | help
  deriving DecidableEq, Repr

namespace Switch

def all : List Switch := [.stage, .gles, .floatPrecision, .output, .verbose, .help]

def name : Switch → String
  | .stage => "stage"
  | .gles => "gles"
  | .floatPrecision => "float-precision"
  | .output => "output"
  | .verbose => "verbose"
  | .help => "help"

def letter? : Switch → Option Char
  | .output => some 'o'
  | .verbose => some 'v'
  | .help => some 'h'
  | _ => none

def takesValue : Switch → Bool
  | .stage | .floatPrecision | .output => true
  | .gles | .verbose | .help => false

end Switch

/-- Why reading ends before the last argument. -/
inductive Stop where
  | unusable
  | help
  deriving DecidableEq, Repr

/-- How a draft `δ` of a request takes in what the arguments give: the switches it
knows, a switch with its value, and a plain argument. -/
structure Form (δ : Type) where
  switches : List Switch
  give : δ → Switch → String → Except Stop δ
  plain : δ → String → Except Stop δ

/-- The reader's state between two arguments: what was read, the switch whose
value comes next, and whether all further arguments are plain. -/
structure Reader (δ : Type) where
  draft : δ
  awaiting : Option Switch := none
  onlyPlain : Bool := false

namespace Reader

variable {δ : Type}

def give (form : Form δ) (r : Reader δ) (s : Switch) (value : String) :
    Except Stop (Reader δ) := do
  return { r with draft := ← form.give r.draft s value, awaiting := none }

def plain (form : Form δ) (r : Reader δ) (arg : String) : Except Stop (Reader δ) := do
  return { r with draft := ← form.plain r.draft arg }

/-- A switch by its name, perhaps with a value after an equals sign. -/
def long (form : Form δ) (r : Reader δ) (text : List Char) : Except Stop (Reader δ) :=
  match form.switches.find? (·.name == String.ofList (text.takeWhile (· != '='))) with
  | none => .error .unusable
  | some s =>
    match text.dropWhile (· != '='), s.takesValue with
    | [], false => r.give form s ""
    | [], true => .ok { r with awaiting := some s }
    | _ :: value, true => r.give form s (String.ofList value)
    | _ :: _, false => .error .unusable

/-- Switches by their letters. The first one that takes a value takes what is
left. -/
def short (form : Form δ) (r : Reader δ) : List Char → Except Stop (Reader δ)
  | [] => .ok r
  | c :: rest =>
    match form.switches.find? (·.letter? == some c) with
    | none => .error .unusable
    | some s =>
      if s.takesValue then
        match rest with
        | [] => .ok { r with awaiting := some s }
        | '=' :: value => r.give form s (String.ofList value)
        | value => r.give form s (String.ofList value)
      else do
        short form (← r.give form s "") rest

/-- Reads one argument. A switch cannot stand where a value is awaited, but a
single dash can. -/
def step (form : Form δ) (r : Reader δ) (arg : String) : Except Stop (Reader δ) :=
  if r.onlyPlain then
    r.plain form arg
  else
    match arg.toList, r.awaiting with
    | ['-', '-'], none => .ok { r with onlyPlain := true }
    | '-' :: '-' :: text, none => r.long form text
    | '-' :: c :: text, none => r.short form (c :: text)
    | '-' :: _ :: _, some _ => .error .unusable
    | _, some s => r.give form s arg
    | _, none => r.plain form arg

end Reader

/-- Fills a draft from arguments. The last switch must not be left without its
value. -/
def Form.fill {δ : Type} (form : Form δ) (draft : δ) (args : List String) : Except Stop δ := do
  let r ← args.foldlM (Reader.step form) { draft }
  if r.awaiting.isSome then throw .unusable else return r.draft

/-- Whatever an argument gives has to be well formed and can be given only once. -/
def once {α : Type} : Option α → Option α → Except Stop (Option α)
  | none, some a => .ok (some a)
  | _, _ => .error .unusable

/-- What must not be missing. -/
def required {α : Type} : Option α → Except Stop α
  | some a => .ok a
  | none => .error .unusable

/-- What `emit` is asked to do. -/
structure EmitRequest where
  program : String
  stages : List Stage := [.vertex, .fragment]
  options : Glsl.Options := {}
  output : Option String := none
  verbose : Bool := false

/-- What has been given of an `EmitRequest`. -/
structure EmitDraft where
  program : Option String := none
  stages : Option (List Stage) := none
  gles : Option Unit := none
  floatPrecision : Option Glsl.Precision := none
  output : Option String := none
  verbose : Option Unit := none

namespace EmitDraft

def stages? : String → Option (List Stage)
  | "vertex" => some [.vertex]
  | "fragment" => some [.fragment]
  | "both" => some [.vertex, .fragment]
  | _ => none

def precision? : String → Option Glsl.Precision
  | "low" => some .low
  | "medium" => some .medium
  | "high" => some .high
  | _ => none

/-- A file name is never empty. -/
def fileName? (s : String) : Option String := if s.isEmpty then none else some s

def give (d : EmitDraft) (s : Switch) (value : String) : Except Stop EmitDraft := do
  match s with
  | .stage => return { d with stages := ← once d.stages (stages? value) }
  | .gles => return { d with gles := ← once d.gles (some ()) }
  | .floatPrecision =>
    return { d with floatPrecision := ← once d.floatPrecision (precision? value) }
  | .output => return { d with output := ← once d.output (fileName? value) }
  | .verbose => return { d with verbose := ← once d.verbose (some ()) }
  | .help => throw .help

def form : Form EmitDraft where
  switches := Switch.all
  give := give
  plain d arg := return { d with program := ← once d.program (some arg) }

/-- The request, if the program is named. Everything else has a default. -/
def request (d : EmitDraft) : Except Stop EmitRequest := do
  return {
    program := ← required d.program
    stages := d.stages.getD [.vertex, .fragment]
    options :=
      { Glsl.Options.gles d.gles.isSome with floatPrecision := d.floatPrecision.getD .medium }
    output := d.output
    verbose := d.verbose.isSome }

end EmitDraft

/-- `layout` takes the name of a program and no switch but the one for help. -/
def layoutForm : Form (Option String) where
  switches := [.help]
  give _ _ _ := .error .help
  plain d arg := once d (some arg)

/-- Before the activity is named, help is all that can be asked for. -/
def generalForm : Form Unit where
  switches := [.help]
  give _ _ _ := .error .help
  plain _ _ := .error .unusable

inductive Request where
  | emit (r : EmitRequest)
  | layout (program : String)

/-- The request that the arguments make up. -/
def Request.ofArguments : List String → Except Stop Request
  | "emit" :: args => do return .emit (← (← EmitDraft.form.fill {} args).request)
  | "layout" :: args => do return .layout (← required (← layoutForm.fill none args))
  | ["help"] | ["help", "emit"] | ["help", "layout"] | ["help", "help"] => .error .help
  | "help" :: _ => .error .unusable
  | args => do
    generalForm.fill () args
    throw .unusable

end Command

end ShaderTree
