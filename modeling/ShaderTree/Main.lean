import ShaderTree.Command.Run

/-!
# The command

Reads the arguments and the log setting, and carries out what the library says.
-/

namespace ShaderTree

namespace Command

/-- The reason the system gives for not writing a file. -/
def FileError.ofSystem (error : IO.Error) : FileError :=
  let code := match error with
    | .noFileOrDirectory _ code _ | .inappropriateType _ code _ | .invalidArgument _ code _
    | .resourceExhausted _ code _ => code.toNat
    | _ => 0
  (FileError.all.find? (·.code == code)).getD ⟨code, "Other", toString error⟩

def Outcome.report (outcome : Outcome) : IO UInt32 := do
  IO.print outcome.stdout
  IO.eprint outcome.stderr
  return outcome.exit

def Action.perform : Action → IO UInt32
  | .finish outcome => outcome.report
  | .writeFile logged path text next => do
    IO.eprint logged
    let result ← (IO.FS.writeFile path text).toBaseIO
    (next (result.mapError FileError.ofSystem)).report

end Command

end ShaderTree

def main (args : List String) : IO UInt32 := do
  let setting ← IO.getEnv "RUST_LOG"
  (ShaderTree.Command.run setting args).perform
