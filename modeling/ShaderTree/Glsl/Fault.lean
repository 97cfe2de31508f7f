import ShaderTree.Ty
import ShaderTree.Binary32.Literal

/-!
# Why a tree has no source

Each constructor is one reason for which a tree cannot be written; `message` is
the only place where the reasons are put into words.
-/

namespace ShaderTree

namespace Glsl

/-- What is wrong with a selection of components. -/
inductive MaskProblem where
  | noComponents
  | length (n : Nat)
  | notAComponent (c : Char)
  | outOfRange (c : Char)
  | mixedSets (c : Char)
  deriving DecidableEq, Repr

def MaskProblem.message : MaskProblem → String
  | .noComponents => "type has no components to select"
  | .length n => "mask must select 1 to 4 components, got " ++ toString n
  | .notAComponent c => "'" ++ c.toString ++ "' is not a component name"
  | .outOfRange c => "component '" ++ c.toString ++ "' is out of range"
  | .mixedSets c => "'" ++ c.toString ++ "' mixes component sets"

inductive Fault where
  | undeclarable (ty : Ty) (name : String)
  | attributeInFragment (name : String)
  | badMask (mask : String) (ty : Ty) (problem : MaskProblem)
  | componentCount (ty : Ty) (expected found : Nat)
  | nameClash (name : String)
  | nonFinite (x : Binary32)
  deriving DecidableEq, Repr

namespace Fault

def message : Fault → String
  | .undeclarable ty name => "Unsupported declaration type " ++ ty.label ++ " for '" ++ name ++ "'"
  | .attributeInFragment name => "Attribute '" ++ name ++ "' can't be used in a fragment shader"
  | .badMask mask ty problem =>
    "Invalid swizzle '." ++ mask ++ "' on " ++ ty.label ++ ": " ++ problem.message
  | .componentCount ty expected found =>
    "Constructor for " ++ ty.label ++ " expects " ++ toString expected ++ " components, found " ++
      toString found
  | .nameClash name => "Conflicting declarations for '" ++ name ++ "'"
  | .nonFinite x => "Float literal " ++ x.nonFiniteLabel ++ " has no GLSL representation"

/-- The name of the variable that the fault is about. -/
def subject? : Fault → Option String
  | .undeclarable _ name => some name
  | .attributeInFragment name => some name
  | .nameClash name => some name
  | .badMask .. => none
  | .componentCount .. => none
  | .nonFinite _ => none

end Fault

end Glsl

end ShaderTree
