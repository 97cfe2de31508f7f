import ShaderTree.Scope
import ShaderTree.Glsl.Generator

/-!
# Shaders and programs

A shader is a tree that runs in one stage, and the stage is part of its type.  A
program pairs a vertex shader with a fragment shader.  Programs have an identity:
each creation takes a fresh one from a `Supply`, and a copy keeps it.
-/

namespace ShaderTree

open Glsl

/-- A tree for one stage. -/
structure Shader (stage : Stage) where
  body : Statement

namespace Shader

variable {stage : Stage}

/-- The shader that a construction builds in an empty scope. -/
def build (body : Build Unit) : Logged (Shader stage) :=
  (fun scope => ⟨scope.finish⟩) <$> Scope.extend { stage } body

/-- Equality by value, with floats compared as numbers. -/
def equal (s t : Shader stage) : Bool := s.body.equal t.body

def glsl (s : Shader stage) (options : Options) : Logged (Except Fault String) :=
  source stage options s.body

end Shader

/-- What tells one created program from another. -/
structure ProgramId where
  value : UInt64
  deriving DecidableEq, Repr

/-- The sources of both stages. -/
structure Sources where
  vertex : String
  fragment : String
  deriving DecidableEq, Repr

structure Program where
  id : ProgramId
  name : String
  vertex : Shader .vertex
  fragment : Shader .fragment

namespace Program

def describe (p : Program) : String := "Program[" ++ p.name ++ "]"

/-- The sources of both stages, the vertex stage first. -/
def glsl (p : Program) (options : Options) : Logged (Except Fault Sources) := do
  match ← p.vertex.glsl options with
  | .error fault => return .error fault
  | .ok vertex =>
    match ← p.fragment.glsl options with
    | .error fault => return .error fault
    | .ok fragment => return .ok { vertex, fragment }

end Program

/-- The identity that the next created program will have. -/
structure Supply where
  next : ProgramId

/-- Creates a program. -/
def Supply.create (s : Supply) (name : String) (vertex : Shader .vertex)
    (fragment : Shader .fragment) : Program × Supply :=
  (⟨s.next, name, vertex, fragment⟩, ⟨⟨s.next.value + 1⟩⟩)

end ShaderTree
