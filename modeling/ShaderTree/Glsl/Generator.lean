import ShaderTree.Log
import ShaderTree.Glsl.Draft
import ShaderTree.Glsl.Options

/-!
# Generators

A generator writes whole sources for one stage under fixed options.  A source is
the preamble, one declaration for every variable that the tree mentions, and a
`main` that declares the temporaries and runs the tree.

Every run starts clean.  What a generator holds afterwards are the references of
the last run; after a fault in the tree, those mentioned before it.
-/

namespace ShaderTree

namespace Glsl

structure Generator where
  stage : Stage
  options : Options
  references : References := ∅

/-- The first element of a list that occurs earlier in it or in `seen`. -/
def firstRepeat (seen : List String) : List String → Option String
  | [] => none
  | a :: rest => if a ∈ seen then some a else firstRepeat (a :: seen) rest

/-- No two variables may be declared under one name. -/
def checkNames (r : References) : Except Fault Unit :=
  match firstRepeat [] r.names with
  | some name => .error (.nameClash name)
  | none => .ok ()

/-- The declaration of one variable. -/
def declaration (storage : String) (ty : Ty) (name : String) (ending : String) :
    Except Fault String := do
  let word ← typeName ty name
  return storage ++ word ++ " " ++ name ++ ending

/-- The declarations outside of `main`. -/
def globals (r : References) : Except Fault String := do
  let attributes ← r.attributes.toList.mapM fun a => declaration "attribute " a.ty a.name ";\n"
  let uniforms ← r.uniforms.toList.mapM fun u => declaration "uniform " u.ty u.name ";\n"
  let varyings ← r.varyings.toList.mapM fun v => declaration "varying " v.ty v.name ";\n"
  return String.join (attributes ++ uniforms ++ varyings)

/-- The declarations at the head of `main`. -/
def locals (r : References) : Except Fault String := do
  let temps ← r.temps.toList.mapM fun t => declaration "" t.ty t.name ";"
  return String.join temps

/-- A whole source around the text of a tree. -/
def assemble (options : Options) (r : References) (body : String) : Except Fault String := do
  checkNames r
  let outer ← globals r
  let inner ← locals r
  return options.preamble ++ outer ++ "void main() \x7b" ++ inner ++ body ++ "\x7d\n"

namespace Draft

/-- The source around a draft that has no fault, with declarations for `r`. -/
def finish (d : Draft) (options : Options) (r : References) : Except Fault String :=
  match d.fault with
  | some fault => .error fault
  | none => assemble options r d.text

end Draft

namespace Generator

/-- Forgets what the last run mentioned. -/
def reset (g : Generator) : Generator := { g with references := ∅ }

/-- Adds mentions to what a generator holds. -/
def note (g : Generator) (mentions : List Variable) : Generator :=
  { g with references := g.references.insertMany mentions }

/-- What is reported of a run that succeeded. -/
def report (g : Generator) : String :=
  let r := g.references
  "Generated " ++ g.stage.label ++ " shader: " ++ toString r.attributes.size ++ " attributes, " ++
    toString r.uniforms.size ++ " uniforms, " ++ toString r.varyings.size ++ " varyings, " ++
    toString r.temps.size ++ " temps"

/-- Writes the source of a tree, and gives the generator as it is after the run. -/
def generate (g : Generator) (root : Statement) : Logged (Except Fault String × Generator) := do
  let clean := g.reset
  let draft := root.draft clean.stage
  let held := clean.note draft.mentions
  let result := draft.finish held.options held.references
  Logged.writeIf result.isOk .debug held.report
  return (result, held)

/-- After a reset a generator holds only what is noted from then on. -/
theorem references_note_reset (g : Generator) (mentions : List Variable) :
    (g.reset.note mentions).references = References.empty.insertMany mentions := rfl

/-- A run resets the generator, notes the mentions of the tree and declares what is held
then. -/
theorem generate_value (g : Generator) (root : Statement) :
    (g.generate root).value =
      ((root.draft g.stage).finish g.options
          (g.reset.note (root.draft g.stage).mentions).references,
        g.reset.note (root.draft g.stage).mentions) := rfl

end Generator

/-- The source of a tree, from a fresh generator. -/
def source (stage : Stage) (options : Options) (root : Statement) :
    Logged (Except Fault String) :=
  (·.1) <$> ({ stage, options } : Generator).generate root

end Glsl

end ShaderTree
