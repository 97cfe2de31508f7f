import ShaderTree.Program

/-!
# The cache of compiled programs

A cache keeps what was compiled for each program in the current graphics
context.  Contexts are told apart by their epoch; a request from another epoch
drops everything that was compiled before.  A program is compiled when it is
requested and not there, and a failure leaves no trace in the cache.
-/

namespace ShaderTree

open Glsl

/-- The number of a graphics context. After the last number comes zero again. -/
structure Epoch where
  value : UInt32
  deriving DecidableEq, Repr

namespace Epoch

def first : Epoch := ⟨0⟩

/-- The epoch of the context that replaces this one. -/
def next (e : Epoch) : Epoch := ⟨e.value + 1⟩

instance : Ord Epoch := ⟨fun e f => compare e.value f.value⟩

def describe (e : Epoch) : String := "epoch " ++ toString e.value.toNat

/-- The epoch as it appears inside other descriptions. -/
def inspect (e : Epoch) : String := "ContextEpoch(" ++ toString e.value.toNat ++ ")"

end Epoch

structure Cache (α : Type) where
  options : Options
  epoch : Epoch := .first
  entries : List (ProgramId × α) := []

/-- How a request was answered. -/
inductive Answer (ε α : Type) where
  | kept (value : α)
  | compiled (value : α)
  | refused (fault : Fault)
  | failed (error : ε)

/-- Whether the request went as far as compiling. -/
def Answer.ranCompiler {ε α : Type} : Answer ε α → Bool
  | .compiled _ | .failed _ => true
  | .kept _ | .refused _ => false

namespace Cache

variable {ε α : Type}

def size (c : Cache α) : Nat := c.entries.length

def isEmpty (c : Cache α) : Bool := c.entries.isEmpty

def get? (c : Cache α) (p : Program) : Option α := c.entries.lookup p.id

def contains (c : Cache α) (p : Program) : Bool := (c.get? p).isSome

/-- Drops every entry. -/
def clear (c : Cache α) : Cache α := { c with entries := [] }

/-- Drops every entry and reports it if there was one. -/
def invalidate (c : Cache α) : Logged (Cache α) := do
  Logged.writeIf (!c.isEmpty) .debug
    ("Invalidating " ++ toString c.size ++ " cached programs")
  return c.clear

/-- Moves to an epoch. Entries of another epoch do not survive. -/
def enter (c : Cache α) (epoch : Epoch) : Logged (Cache α) := do
  Logged.writeIf (epoch ≠ c.epoch) .debug
    ("Context changed from " ++ c.epoch.describe ++ " to " ++ epoch.describe ++ ", dropping " ++
      toString c.size ++ " cached programs")
  return if epoch = c.epoch then c else { c.clear with epoch }

/-- Answers from the entries, or else by writing the sources and compiling them. -/
def obtain (c : Cache α) (p : Program) (compile : Sources → Except ε α) :
    Logged (Answer ε α × Cache α) := do
  match c.get? p with
  | some value => return (.kept value, c)
  | none =>
    match ← p.glsl c.options with
    | .error fault => return (.refused fault, c)
    | .ok sources =>
      match compile sources with
      | .error error => return (.failed error, c)
      | .ok value =>
        Logged.write .debug ("Compiled " ++ p.describe ++ " in " ++ c.epoch.describe)
        return (.compiled value, { c with entries := c.entries ++ [(p.id, value)] })

/-- Requests the compiled form of a program in an epoch. -/
def request (c : Cache α) (p : Program) (epoch : Epoch) (compile : Sources → Except ε α) :
    Logged (Answer ε α × Cache α) := do
  let c ← c.enter epoch
  c.obtain p compile

def describe (c : Cache α) : String :=
  "ProgramCache \x7b options: " ++ c.options.describe ++ ", epoch: " ++ c.epoch.inspect ++
    ", len: " ++ toString c.size ++ " \x7d"

end Cache

end ShaderTree
