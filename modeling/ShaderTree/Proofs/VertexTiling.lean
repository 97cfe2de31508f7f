import Mathlib.Algebra.GroupWithZero.Nat
import Mathlib.Logic.ExistsUnique
import ShaderTree.VertexLayout

/-!
# Bindings tile the vertex

What a binding reads is told by its number of components and the kind of one element,
while offsets and stride are running sums of the sizes of types.  The two agree for
every type, so the bindings of a layout lie back to back from the first byte of the
vertex to its last.

`Binding.Tiles` says that bindings lie so between two positions.  From it follow the
order of the offsets, the bounds of every binding and that each byte between the two
positions is read by one binding only.
-/

namespace ShaderTree

/-- The bytes that one element takes in a vertex buffer. -/
def ElementKind.byteSize : ElementKind → Nat
  | .float | .int => 4
  | .unsignedByte => 1

theorem Ty.elementCount_mul_byteSize (ty : Ty) :
    ty.elementCount * ty.kind.byteSize = ty.byteSize := by
  cases ty <;> rfl

namespace Binding

/-- The number of bytes that a binding reads from each vertex. -/
def extent (b : Binding) : Nat := b.components * b.kind.byteSize

/-- A binding reads the byte at position `k` of each vertex. -/
def Reads (b : Binding) (k : Nat) : Prop := b.offset ≤ k ∧ k < b.offset + b.extent

/-- Bindings that lie back to back from `start` to `stop`, none of them empty. -/
def Tiles : Nat → List Binding → Nat → Prop
  | start, [], stop => start = stop
  | start, b :: rest, stop =>
    b.offset = start ∧ 0 < b.extent ∧ Tiles (start + b.extent) rest stop

namespace Tiles

variable {start stop k : Nat} {bs : List Binding}

theorem stop_eq (h : Tiles start bs stop) : stop = start + (bs.map extent).sum := by
  induction bs generalizing start with
  | nil => exact h.symm
  | cons b rest ih =>
      obtain ⟨-, -, hrest⟩ := h
      rw [ih hrest, List.map_cons, List.sum_cons, Nat.add_assoc]

/-- No binding begins before `start` or ends after `stop`. -/
theorem bounds (h : Tiles start bs stop) :
    ∀ b ∈ bs, start ≤ b.offset ∧ b.offset + b.extent ≤ stop := by
  induction bs generalizing start with
  | nil => exact List.forall_mem_nil _
  | cons b rest ih =>
      obtain ⟨hoffset, -, hrest⟩ := h
      have hstop := hrest.stop_eq
      refine List.forall_mem_cons.mpr ⟨by omega, fun c hc => ?_⟩
      obtain ⟨hstart, hend⟩ := ih hrest c hc
      exact ⟨by omega, hend⟩

theorem pairwise_offset (h : Tiles start bs stop) : (bs.map offset).Pairwise (· < ·) := by
  induction bs generalizing start with
  | nil => exact List.Pairwise.nil
  | cons b rest ih =>
      obtain ⟨hoffset, hextent, hrest⟩ := h
      refine List.pairwise_cons.mpr ⟨?_, ih hrest⟩
      intro offset hmem
      obtain ⟨c, hc, rfl⟩ := List.mem_map.mp hmem
      obtain ⟨hstart, -⟩ := hrest.bounds c hc
      omega

/-- A byte between the two ends is read by one of the bindings and by no other. -/
theorem existsUnique_reads (h : Tiles start bs stop) (hstart : start ≤ k) (hstop : k < stop) :
    ∃! i : Nat, ∃ b, bs[i]? = some b ∧ b.Reads k := by
  induction bs generalizing start with
  | nil =>
      have hempty : start = stop := h
      omega
  | cons b rest ih =>
      obtain ⟨hoffset, -, hrest⟩ := h
      by_cases hk : k < start + b.extent
      · -- the byte lies in the first binding, and all others begin behind it
        refine ⟨0, ⟨b, rfl, by omega, by omega⟩, ?_⟩
        rintro (_ | i) ⟨c, hc, hreads, -⟩
        · rfl
        · obtain ⟨hbehind, -⟩ := hrest.bounds c (List.mem_of_getElem? hc)
          omega
      · obtain ⟨i, hi, hunique⟩ := ih hrest (Nat.le_of_not_lt hk)
        refine ⟨i + 1, hi, ?_⟩
        rintro (_ | j) ⟨c, hc, hreads⟩
        · obtain rfl : b = c := Option.some.inj hc
          have hend := hreads.2
          omega
        · rw [hunique j ⟨c, hc, hreads⟩]

end Tiles

end Binding

/-- The binding of an attribute that begins at `offset`. -/
def Attribute.bind (stride : Nat) (a : Attribute) (offset : Nat) : Binding :=
  { name := a.name, components := a.ty.elementCount, kind := a.ty.kind,
    normalized := a.normalized, stride, offset }

theorem Attribute.extent_bind (stride : Nat) (a : Attribute) (offset : Nat) :
    (a.bind stride offset).extent = a.ty.byteSize := a.ty.elementCount_mul_byteSize

namespace VertexLayout

variable (l : VertexLayout)

theorem bindings_eq_zipWith : l.bindings = List.zipWith (·.bind l.stride) l.attributes l.offsets :=
  List.map_zip_eq_zipWith

/-- Attributes that follow one another from `start` on are bound back to back. -/
theorem tiles_zipWith_bind (stride start : Nat) (as : List Attribute) :
    Binding.Tiles start
      (List.zipWith (·.bind stride) as (offsetsFrom start (as.map (·.ty.byteSize))))
      (start + (as.map (·.ty.byteSize)).sum) := by
  induction as generalizing start with
  | nil => exact (Nat.add_zero start).symm
  | cons a rest ih =>
      refine ⟨rfl, ?_, ?_⟩
      · rw [Attribute.extent_bind]
        exact a.ty.byteSize_pos
      · rw [Attribute.extent_bind, List.map_cons, List.sum_cons, ← Nat.add_assoc]
        exact ih _

theorem eq_of_head?_offsetsFrom {start offset : Nat} (sizes : List Nat)
    (h : (offsetsFrom start sizes).head? = some offset) : offset = start := by
  cases sizes with
  | nil => cases h
  | cons size rest => exact (Option.some.inj h).symm

theorem stride_eq_sum : l.stride = (l.attributes.map (·.ty.byteSize)).sum :=
  List.sum_eq_foldl_nat.symm

theorem tiles_bindings : Binding.Tiles 0 l.bindings l.stride := by
  have htiles := tiles_zipWith_bind l.stride 0 l.attributes
  rw [Nat.zero_add, ← l.stride_eq_sum] at htiles
  rw [bindings_eq_zipWith]
  exact htiles

theorem map_offset_bindings : l.bindings.map Binding.offset = l.offsets := by
  rw [bindings, List.map_map]
  exact List.map_snd_zip (Nat.le_of_eq l.length_offsets)

/-- What an attribute alone decides of its binding is kept, in the order of the list. -/
theorem map_bindings {α : Type} (f : Binding → α) (g : Attribute → α)
    (h : ∀ a offset, f (a.bind l.stride offset) = g a) : l.bindings.map f = l.attributes.map g := by
  have hfirst : l.placed.map Prod.fst = l.attributes :=
    List.map_fst_zip (Nat.le_of_eq l.length_offsets.symm)
  rw [← hfirst, bindings, List.map_map, List.map_map]
  exact List.map_congr_left fun p _ => h p.1 p.2

theorem offsetOf?_eq_find?_bindings (name : String) :
    l.offsetOf? name = (l.bindings.find? (·.name == name)).map Binding.offset := by
  rw [bindings, List.find?_map, Option.map_map]
  rfl

/-- Looking up the partner of the first match is looking up by the place of the first match. -/
theorem map_find?_zip {α β : Type} (p : α → Bool) (as : List α) (bs : List β)
    (h : bs.length = as.length) :
    ((as.zip bs).find? (fun ab => p ab.1)).map Prod.snd = (as.findIdx? p).bind (bs[·]?) := by
  induction as generalizing bs with
  | nil => rfl
  | cons a as ih =>
      obtain ⟨b, bs, rfl⟩ := List.exists_cons_of_length_eq_add_one h
      rw [List.zip_cons_cons, List.find?_cons, List.findIdx?_cons]
      cases p a with
      | true => rfl
      | false =>
          rw [if_neg (by decide), Option.bind_map]
          exact ih bs (Nat.succ.inj h)

/-- How the attributes of a layout lie in the vertex. -/
structure IsPacked : Prop where
  /-- There is one offset for each attribute, and the offsets increase from zero. -/
  length : l.offsets.length = l.attributes.length
  first : ∀ offset, l.offsets.head? = some offset → offset = 0
  increasing : l.offsets.Pairwise (· < ·)
  /-- Each byte of the vertex is read by one binding and by no other. -/
  covered : ∀ k < l.stride, ∃! i : Nat, ∃ b, l.bindings[i]? = some b ∧ b.Reads k
  /-- No binding reads past the vertex. -/
  bounded : ∀ b ∈ l.bindings, b.offset + b.extent ≤ l.stride
  /-- The stride is the size of all that is read, and of all attributes. -/
  total : l.stride = (l.bindings.map Binding.extent).sum
  sizes : l.stride = (l.attributes.map (·.ty.byteSize)).sum
  /-- The bindings follow the list of attributes. -/
  offsets : l.bindings.map Binding.offset = l.offsets
  attributes : l.bindings.map (fun b => (b.name, b.components, b.kind, b.normalized)) =
    l.attributes.map fun a => (a.name, a.ty.elementCount, a.ty.kind, a.normalized)
  /-- A name is looked up in the first binding that has it. -/
  found : ∀ name,
    l.offsetOf? name = (l.bindings.find? (·.name == name)).map Binding.offset
  missing : ∀ name, l.offsetOf? name = none ↔ ∀ b ∈ l.bindings, b.name ≠ name
  /-- The place of the first attribute with a name is the place of an offset. -/
  place : ∀ name i, l.attributes.findIdx? (·.name == name) = some i →
    ∃ offset, l.offsets[i]? = some offset ∧ l.offsetOf? name = some offset

/-- The bindings of a layout tile the vertex, whatever its attributes are and also if some
share a name. -/
theorem isPacked : l.IsPacked where
  length := l.length_offsets
  first _ hfirst := eq_of_head?_offsetsFrom l.sizes hfirst
  increasing := by
    rw [← l.map_offset_bindings]
    exact l.tiles_bindings.pairwise_offset
  covered k hk := l.tiles_bindings.existsUnique_reads (Nat.zero_le k) hk
  bounded b hb := (l.tiles_bindings.bounds b hb).2
  total := by
    rw [l.tiles_bindings.stop_eq, Nat.zero_add]
  sizes := l.stride_eq_sum
  offsets := l.map_offset_bindings
  attributes := l.map_bindings _ _ fun _ _ => rfl
  found := l.offsetOf?_eq_find?_bindings
  missing name := by
    rw [l.offsetOf?_eq_find?_bindings, Option.map_eq_none_iff, List.find?_eq_none]
    simp only [beq_iff_eq, ne_eq]
  place name i hi := by
    have hindex : i < l.offsets.length := by
      rw [l.length_offsets]
      exact (List.findIdx?_eq_some_iff_getElem.mp hi).1
    refine ⟨l.offsets[i], List.getElem?_eq_getElem hindex, ?_⟩
    rw [offsetOf?, placed, map_find?_zip (·.name == name) _ _ l.length_offsets, hi]
    exact List.getElem?_eq_getElem hindex

/-- Two attributes of one name, with a flag of one byte between them. -/
example :
    let l : VertexLayout :=
      ⟨[⟨"a_Pos", .vec2, false⟩, ⟨"a_On", .bool, false⟩, ⟨"a_Pos", .byte4, true⟩]⟩
    l.offsets = [0, 8, 9] ∧ l.stride = 13 ∧ l.offsetOf? "a_Pos" = some 0 ∧
      l.offsetOf? "a_On" = some 8 ∧ l.offsetOf? "a_Tex" = none := by
  decide

end VertexLayout

end ShaderTree
