import ShaderTree.OrderedSet
import ShaderTree.Visit

/-!
# The variables a tree refers to

`References` keeps the distinct attributes, uniforms, varyings and temporaries,
each kind in the order of first reference.  Collecting several trees one after
another extends the same sets.
-/

namespace ShaderTree

structure References where
  attributes : OrderedSet Attribute := ∅
  uniforms : OrderedSet Uniform := ∅
  varyings : OrderedSet Varying := ∅
  temps : OrderedSet Temp := ∅

namespace References

def empty : References := {}

instance : EmptyCollection References := ⟨empty⟩

/-- Adds a variable to the set of its kind. The output is in none. -/
def insert (r : References) : Variable → References
  | .attribute a => { r with attributes := r.attributes.insert a }
  | .uniform u => { r with uniforms := r.uniforms.insert u }
  | .varying v => { r with varyings := r.varyings.insert v }
  | .temp t => { r with temps := r.temps.insert t }
  | .output => r

def insertMany (r : References) (vs : List Variable) : References := vs.foldl insert r

/-- Adds the variable met at a visit. -/
def note (r : References) : Visit → References
  | .variable v => r.insert v
  | _ => r

/-- Adds every variable that a tree refers to. -/
def collect (r : References) (s : Statement) : References :=
  (s.walk (m := StateM References) fun v => modify (·.note v)).run r |>.2

/-- The declared names: attributes, uniforms, varyings, then temporaries. -/
def names (r : References) : List String :=
  r.attributes.toList.map (·.name) ++ r.uniforms.toList.map (·.name) ++
    r.varyings.toList.map (·.name) ++ r.temps.toList.map Temp.name

@[simp] theorem insertMany_nil (r : References) : r.insertMany [] = r := rfl

@[simp] theorem insertMany_cons (r : References) (v : Variable) (vs : List Variable) :
    r.insertMany (v :: vs) = (r.insert v).insertMany vs := rfl

theorem insertMany_append (r : References) (vs ws : List Variable) :
    r.insertMany (vs ++ ws) = (r.insertMany vs).insertMany ws := List.foldl_append

end References

end ShaderTree
