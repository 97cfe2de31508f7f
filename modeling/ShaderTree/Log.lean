/-!
# Log records

Operations of the library report what they did.  A report is data: `Logged α` is
a value together with the records written on the way to it, and its `bind` puts
the records of the two parts one after the other.
-/

namespace ShaderTree

namespace Log

/-- How important a record is, the most important first. -/
inductive Level where
  | error
  | warn
  | info
  | debug
  | trace
  deriving DecidableEq, Repr

def Level.label : Level → String
  | .error => "ERROR"
  | .warn => "WARN"
  | .info => "INFO"
  | .debug => "DEBUG"
  | .trace => "TRACE"

structure Record where
  level : Level
  message : String
  deriving DecidableEq, Repr

/-- A record as one line. -/
def Record.line (r : Record) : String := r.level.label ++ " " ++ r.message

end Log

/-- A value and the records written while it was computed. -/
structure Logged (α : Type) where
  value : α
  log : List Log.Record

namespace Logged

variable {α β : Type}

instance : Monad Logged where
  pure a := ⟨a, []⟩
  bind x f := ⟨(f x.value).value, x.log ++ (f x.value).log⟩

/-- Writes one record. -/
def write (level : Log.Level) (message : String) : Logged Unit := ⟨(), [⟨level, message⟩]⟩

/-- Writes one record if there is reason to. -/
def writeIf (reason : Bool) (level : Log.Level) (message : String) : Logged Unit :=
  ⟨(), if reason then [⟨level, message⟩] else []⟩

@[simp] theorem value_pure (a : α) : (pure a : Logged α).value = a := rfl

@[simp] theorem log_pure (a : α) : (pure a : Logged α).log = [] := rfl

@[simp] theorem value_bind (x : Logged α) (f : α → Logged β) :
    (x >>= f).value = (f x.value).value := rfl

@[simp] theorem log_bind (x : Logged α) (f : α → Logged β) :
    (x >>= f).log = x.log ++ (f x.value).log := rfl

end Logged

end ShaderTree
