import ShaderTree.Log
import ShaderTree.Stage
import ShaderTree.Statement

/-!
# Building a tree scope by scope

`Build` is the monad in which a tree is put together.  Its state is the scope
that is open, and every statement is added at the end of that scope.  The
branches of a conditional are built in scopes of their own, which leave a record
when they close.

`Step` describes such a construction as data: performing a list of steps builds
what the steps say.
-/

namespace ShaderTree

/-- The statements of one scope, as far as they have been added. -/
structure Scope where
  stage : Stage
  statements : List Statement := []

/-- The scope as one block. -/
def Scope.finish (s : Scope) : Statement := .block s.statements

abbrev Build := StateT Scope Logged

namespace Build

/-- Adds a statement to the open scope. -/
def add (s : Statement) : Build Unit :=
  modify fun scope => { scope with statements := scope.statements ++ [s] }

/-- Adds an assignment. -/
def set (target source : Operand) : Build Unit := add (.assign target source)

/-- Runs a construction in a fresh scope of the same stage and closes it. -/
def nested (body : Build Unit) : Build Statement := fun scope => do
  let (_, inner) ← body.run { stage := scope.stage }
  Logged.write .trace
    ("closed nested scope with " ++ toString inner.statements.length ++ " statements")
  return (inner.finish, scope)

/-- Runs each construction in a scope of its own and keeps the last. -/
def nestedLast : List (Build Unit) → Build (Option Statement)
  | [] => return none
  | [body] => some <$> nested body
  | body :: rest => do
    let _ ← nested body
    nestedLast rest

/-- Adds a conditional. Of several constructions for the other branch all are
run and the last one counts. -/
def branch (condition : Operand) (body : Build Unit) (otherwise : List (Build Unit)) :
    Build Unit := do
  let body ← nested body
  match ← nestedLast otherwise with
  | none => add (.ifThen condition body)
  | some otherwise => add (.ifThenElse condition body otherwise)

end Build

/-- One step of a construction. -/
inductive Step where
  | set (target source : Operand)
  | branch (condition : Operand) (body : List Step) (otherwise : List (List Step))

namespace Step

mutual

def perform : Step → Build Unit
  | .set target source => Build.set target source
  | .branch condition body otherwise =>
    Build.branch condition (performAll body) (performEach otherwise)

/-- Steps performed one after another in the same scope. -/
def performAll : List Step → Build Unit
  | [] => return ()
  | s :: rest => do
    s.perform
    performAll rest

/-- Lists of steps, each for a scope of its own. -/
def performEach : List (List Step) → List (Build Unit)
  | [] => []
  | steps :: rest => performAll steps :: performEach rest

end

end Step

namespace Scope

/-- The scope after a construction that starts from `s`. -/
def extend (s : Scope) (body : Build Unit) : Logged Scope := (·.2) <$> body.run s

end Scope

end ShaderTree
