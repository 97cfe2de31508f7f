/-!
# Sets that remember the order of insertion

An `OrderedSet` lists its members without repetition, each at the place of its
first insertion.  `toList` is the view in which every operation is described.
-/

namespace ShaderTree

/-- Distinct elements in the order in which they first came. -/
structure OrderedSet (α : Type) where
  toList : List α
  nodup : toList.Nodup

namespace OrderedSet

variable {α β : Type} [DecidableEq α] [DecidableEq β]

def empty : OrderedSet α := ⟨[], List.nodup_nil⟩

instance : EmptyCollection (OrderedSet α) := ⟨empty⟩

instance : Membership α (OrderedSet α) := ⟨fun s a => a ∈ s.toList⟩

instance (a : α) (s : OrderedSet α) : Decidable (a ∈ s) := inferInstanceAs (Decidable (a ∈ s.toList))

def size (s : OrderedSet α) : Nat := s.toList.length

def isEmpty (s : OrderedSet α) : Bool := s.toList.isEmpty

/-- Adds an element at the end unless it is a member already. -/
def insert (s : OrderedSet α) (a : α) : OrderedSet α :=
  if h : a ∈ s.toList then
    s
  else
    ⟨s.toList ++ [a], List.nodup_append.2
      ⟨s.nodup, by simp, fun x hx y hy hxy => h (by simp_all)⟩⟩

/-- Adds the elements of a list one after another. -/
def insertMany (s : OrderedSet α) (as : List α) : OrderedSet α := as.foldl insert s

/-- The distinct elements of a list, each at its first place. -/
def ofList (as : List α) : OrderedSet α := empty.insertMany as

/-- The members of either set, those of the first set first. -/
def union (s t : OrderedSet α) : OrderedSet α := s.insertMany t.toList

/-- The members of `s` that are not in `t`, in the order of `s`. -/
def diff (s t : OrderedSet α) : OrderedSet α :=
  ⟨s.toList.filter (· ∉ t), s.nodup.sublist List.filter_sublist⟩

/-- The distinct images of the members, in order. -/
def image (f : α → β) (s : OrderedSet α) : OrderedSet β := ofList (s.toList.map f)

theorem toList_insert (s : OrderedSet α) (a : α) :
    (s.insert a).toList = if a ∈ s.toList then s.toList else s.toList ++ [a] := by
  unfold insert
  split <;> simp_all

theorem mem_insert {s : OrderedSet α} {a b : α} : b ∈ (s.insert a).toList ↔ b ∈ s.toList ∨ b = a := by
  rw [toList_insert]
  split
  · constructor
    · exact Or.inl
    · rintro (h | rfl) <;> assumption
  · simp

@[simp] theorem insertMany_nil (s : OrderedSet α) : s.insertMany [] = s := rfl

@[simp] theorem insertMany_cons (s : OrderedSet α) (a : α) (as : List α) :
    s.insertMany (a :: as) = (s.insert a).insertMany as := rfl

theorem insertMany_append (s : OrderedSet α) (as bs : List α) :
    s.insertMany (as ++ bs) = (s.insertMany as).insertMany bs := List.foldl_append

end OrderedSet

end ShaderTree
