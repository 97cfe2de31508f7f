import ShaderTree.Stock
import ShaderTree.Log.Filter
import ShaderTree.Text.Quoted
import ShaderTree.Command.Arguments
import ShaderTree.Command.Directory

/-!
# What the command does

`run` turns the log setting and the arguments into an `Action`: either the whole
outcome is known, or one file has to be written first and the rest depends on
whether that works.  Whoever carries out the action does nothing else.
-/

namespace ShaderTree

namespace Command

open Log

/-- What the command leaves behind. -/
structure Outcome where
  exit : UInt32 := 0
  stdout : String := ""
  stderr : String := ""
  deriving DecidableEq, Repr

/-- What is left to do. Before a file is written, `logged` goes to the standard
error stream, and after it the outcome that `next` gives. -/
inductive Action where
  | finish (outcome : Outcome)
  | writeFile (logged path text : String) (next : Except FileError Unit → Outcome)

/-- Why the command fails. -/
inductive Failure where
  | unknownProgram (name : String)
  | generation (fault : Glsl.Fault)
  | file (error : FileError)

namespace Failure

def describe : Failure → String
  | .unknownProgram name => "UnknownProgram(" ++ Text.quote name ++ ")"
  | .generation fault => "GlslError(" ++ Text.quote fault.message ++ ")"
  | .file error =>
    "IoError(Os \x7b code: " ++ toString error.code ++ ", kind: " ++ error.kind ++ ", message: " ++
      Text.quote error.message ++ " \x7d)"

end Failure

namespace Outcome

/-- The outcome of a failure, after what has been logged. -/
def failed (logged : String) (failure : Failure) : Outcome :=
  { exit := 1, stderr := logged ++ "Error: " ++ failure.describe ++ "\n" }

end Outcome

def usage : String :=
  "Usage: glint emit PROGRAM [--stage vertex|fragment|both] [--gles]\n" ++
    "                  [--float-precision low|medium|high] [-o|--output FILE] [-v|--verbose]\n" ++
    "       glint layout PROGRAM\n"

/-- The name under which the command speaks. -/
def commandTarget : String := "glint"

/-- The name under which generators speak. -/
def generatorTarget : String := "glint_core::glsl::generator"

/-- A note that is shown only if the user wants to hear more. -/
def note (filter : Filter) (verbose : Bool) (message : String) : String :=
  filter.render commandTarget (Logged.writeIf verbose .info message).log

def stageSource (p : Program) (options : Glsl.Options) :
    Stage → Logged (Except Glsl.Fault String)
  | .vertex => p.vertex.glsl options
  | .fragment => p.fragment.glsl options

/-- The sources of the chosen stages, each under a line that names its stage. -/
def emission (p : Program) (options : Glsl.Options) : List Stage → Logged (Except Glsl.Fault String)
  | [] => return .ok ""
  | stage :: rest => do
    match ← stageSource p options stage with
    | .error fault => return .error fault
    | .ok source =>
      match ← emission p options rest with
      | .error fault => return .error fault
      | .ok others => return .ok ("// " ++ stage.label ++ " shader\n" ++ source ++ others)

def emit (filter : Filter) (r : EmitRequest) : Action :=
  match Stock.find? r.program with
  | none => .finish (.failed "" (.unknownProgram r.program))
  | some entry =>
    let written := emission entry.program r.options r.stages
    let logged :=
      note filter r.verbose
        ("Generating " ++ entry.program.describe ++ " with " ++ r.options.describe) ++
      filter.render generatorTarget written.log
    match written.value, r.output with
    | .error fault, _ => .finish (.failed logged (.generation fault))
    | .ok text, none => .finish { stdout := text, stderr := logged }
    | .ok text, some path =>
      .writeFile logged path text fun
        | .error error => .failed "" (.file error)
        | .ok _ =>
          { stderr := note filter r.verbose
              ("Wrote " ++ toString text.utf8ByteSize ++ " bytes to " ++ path) }

/-- One line for a binding. -/
def bindingLine (b : Binding) : String :=
  "  " ++ b.name ++ " offset=" ++ toString b.offset ++ " components=" ++ toString b.components ++
    " kind=" ++ b.kind.label ++ " normalized=" ++ toString b.normalized ++ "\n"

def layoutText (l : VertexLayout) : String :=
  l.describe ++ " stride=" ++ toString l.stride ++ "\n" ++ String.join (l.bindings.map bindingLine)

def layout (program : String) : Outcome :=
  match Stock.find? program with
  | none => .failed "" (.unknownProgram program)
  | some entry => { stdout := layoutText entry.layout }

/-- The outcome after what has been written to the two streams. -/
def Outcome.after (stdout stderr : String) (outcome : Outcome) : Outcome :=
  { outcome with stdout := stdout ++ outcome.stdout, stderr := stderr ++ outcome.stderr }

/-- The action after what has been written to the standard error stream. -/
def Action.after (stderr : String) : Action → Action
  | .finish outcome => .finish (outcome.after "" stderr)
  | .writeFile logged path text next => .writeFile (stderr ++ logged) path text next

/-- What the command does with its arguments, given which records to show. Arguments
that make up no request are reported before anything is looked up. -/
def perform (filter : Filter) (args : List String) : Action :=
  match Request.ofArguments args with
  | .error .unusable => .finish { exit := 2, stderr := usage }
  | .error .help => .finish { stdout := usage }
  | .ok (.emit r) => emit filter r
  | .ok (.layout program) => .finish (layout program)

/-- What the command does with its log setting and its arguments. Warnings about the
setting come before anything else. -/
def run (setting : Option String) (args : List String) : Action :=
  let (filter, warnings) := Filter.ofSetting setting
  (perform filter args).after warnings

/-- The action carried out in a directory: the outcome and the directory after
it. -/
def Action.performIn (d : Directory) : Action → Outcome × Directory
  | .finish outcome => (outcome, d)
  | .writeFile logged path text next =>
    match d.destination path with
    | .error error => ((next (.error error)).after "" logged, d)
    | .ok (.file name) => ((next (.ok ())).after "" logged, d.put name text)
    | .ok .elsewhere => ((next (.ok ())).after "" logged, d)
    | .ok .stdout => ((next (.ok ())).after text logged, d)
    | .ok .stderr => ((next (.ok ())).after "" (logged ++ text), d)

end Command

end ShaderTree
