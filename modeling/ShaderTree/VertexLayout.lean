import ShaderTree.Variable

/-!
# Vertex layouts

The attributes of a vertex lie back to back in a buffer, in the order in which
they are listed.  An attribute's offset is the size of everything before it and
the stride is the size of the whole vertex.
-/

namespace ShaderTree

structure VertexLayout where
  attributes : List Attribute
  deriving DecidableEq, Repr

/-- What is needed to bind one attribute to a vertex buffer. -/
structure Binding where
  name : String
  components : Nat
  kind : ElementKind
  normalized : Bool
  stride : Nat
  offset : Nat
  deriving DecidableEq, Repr

namespace VertexLayout

/-- The running sums of a list of sizes, from `start` on. -/
def offsetsFrom (start : Nat) : List Nat → List Nat
  | [] => []
  | size :: rest => start :: offsetsFrom (start + size) rest

/-- The size of each attribute in bytes. -/
def sizes (l : VertexLayout) : List Nat := l.attributes.map (·.ty.byteSize)

/-- Where each attribute begins within a vertex. -/
def offsets (l : VertexLayout) : List Nat := offsetsFrom 0 l.sizes

/-- The distance from one vertex to the next. -/
def stride (l : VertexLayout) : Nat := l.sizes.foldl (· + ·) 0

/-- The attributes with their offsets. -/
def placed (l : VertexLayout) : List (Attribute × Nat) := l.attributes.zip l.offsets

/-- The offset of the first attribute of the given name. -/
def offsetOf? (l : VertexLayout) (name : String) : Option Nat :=
  (l.placed.find? (·.1.name == name)).map (·.2)

def bindings (l : VertexLayout) : List Binding :=
  l.placed.map fun (a, offset) =>
    { name := a.name, components := a.ty.elementCount, kind := a.ty.kind,
      normalized := a.normalized, stride := l.stride, offset }

def describe (l : VertexLayout) : String :=
  "VertexLayout[" ++ ", ".intercalate (l.attributes.map (·.name)) ++ "]"

theorem length_offsetsFrom (start : Nat) (sizes : List Nat) :
    (offsetsFrom start sizes).length = sizes.length := by
  induction sizes generalizing start with
  | nil => rfl
  | cons size rest ih => simp [offsetsFrom, ih]

@[simp] theorem length_offsets (l : VertexLayout) : l.offsets.length = l.attributes.length := by
  simp [offsets, sizes, length_offsetsFrom]

end VertexLayout

end ShaderTree
