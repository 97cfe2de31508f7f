import ShaderTree.Interface
import ShaderTree.Proofs.Collection

/-!
# Collecting several trees

Collecting goes over trees one after another and keeps what it has.  It makes no
difference whether the trees are parts of one block: what is inserted in the end are
the mentions of all of them in their order.  So nothing moves when more is collected,
a tree that was collected before adds nothing, and another order of the trees gives
the same variables in another order.

The uniforms of a program come from two collections that are merged.  Merging a set
with one that was filled element by element is the same as going on to fill the first,
so they are the uniforms of one collection over both trees.
-/

namespace ShaderTree

namespace OrderedSet

variable {α : Type} [DecidableEq α] {s : OrderedSet α} {a : α} {as bs : List α}

theorem insert_of_mem (h : a ∈ s.toList) : s.insert a = s := dif_pos h

theorem mem_insertMany : a ∈ (s.insertMany as).toList ↔ a ∈ s.toList ∨ a ∈ as := by
  induction as generalizing s with
  | nil => simp
  | cons b as ih => rw [insertMany_cons, ih, mem_insert, List.mem_cons, or_assoc]

/-- Members are not inserted again. -/
theorem insertMany_of_forall_mem (h : ∀ a ∈ as, a ∈ s.toList) : s.insertMany as = s := by
  induction as with
  | nil => rfl
  | cons a as ih =>
      rw [insertMany_cons, insert_of_mem (h a List.mem_cons_self)]
      exact ih fun b hb => h b (List.mem_cons_of_mem a hb)

/-- The order of insertion decides about the order of the members and nothing else. -/
theorem perm_insertMany (s : OrderedSet α) (h : as.Perm bs) :
    (s.insertMany as).toList.Perm (s.insertMany bs).toList := by
  refine (List.perm_ext_iff_of_nodup (s.insertMany as).nodup (s.insertMany bs).nodup).mpr ?_
  intro a
  rw [mem_insertMany, mem_insertMany, h.mem_iff]

theorem union_insert (s t : OrderedSet α) (a : α) :
    s.union (t.insert a) = (s.union t).insert a := by
  by_cases ha : a ∈ t.toList
  · have hunion : a ∈ (s.union t).toList := mem_insertMany.mpr (.inr ha)
    rw [insert_of_mem ha, insert_of_mem hunion]
  · rw [union, toList_insert, if_neg ha, insertMany_append]
    rfl

/-- Merging with a set that is filled goes on as the filling does. -/
theorem union_insertMany (s t : OrderedSet α) (as : List α) :
    s.union (t.insertMany as) = (s.union t).insertMany as := by
  induction as generalizing t with
  | nil => rfl
  | cons a as ih => rw [insertMany_cons, ih, union_insert, insertMany_cons]

end OrderedSet

namespace Statement

theorem mentions_block (body : List Statement) :
    (block body).mentions = body.flatMap mentions := by
  have hall : ∀ body : List Statement,
      (visitsAll body).filterMap Visit.mention? = body.flatMap mentions := by
    intro body
    induction body with
    | nil => rfl
    | cons s rest ih => rw [visitsAll, List.filterMap_append, ih, List.flatMap_cons, mentions]
  exact hall body

end Statement

namespace References

/-- Collects several trees one after another. -/
def collectAll (r : References) (body : List Statement) : References := body.foldl collect r

/-- Each class of variables in `r` stands at the front of that in `r'`. -/
structure Begins (r r' : References) : Prop where
  attributes : r.attributes.toList <+: r'.attributes.toList
  uniforms : r.uniforms.toList <+: r'.uniforms.toList
  varyings : r.varyings.toList <+: r'.varyings.toList
  temps : r.temps.toList <+: r'.temps.toList

/-- Each class of variables is the same in `r` and `r'` up to its order. -/
structure Reorders (r r' : References) : Prop where
  attributes : r.attributes.toList.Perm r'.attributes.toList
  uniforms : r.uniforms.toList.Perm r'.uniforms.toList
  varyings : r.varyings.toList.Perm r'.varyings.toList
  temps : r.temps.toList.Perm r'.temps.toList

variable {r : References} {body other : List Statement} {s : Statement}

theorem collectAll_eq_insertMany (r : References) (body : List Statement) :
    r.collectAll body = r.insertMany (body.flatMap Statement.mentions) := by
  induction body generalizing r with
  | nil => rfl
  | cons s rest ih =>
      rw [List.flatMap_cons, insertMany_append, ← collect_eq_insertMany, ← ih]
      rfl

/-- It makes no difference whether trees are collected by themselves or in a block. -/
theorem collectAll_eq_collect_block (r : References) (body : List Statement) :
    r.collectAll body = r.collect (.block body) := by
  rw [collectAll_eq_insertMany, collect_eq_insertMany, Statement.mentions_block]

theorem collectAll_append (r : References) (body later : List Statement) :
    r.collectAll (body ++ later) = (r.collectAll body).collectAll later := List.foldl_append

theorem begins_collectAll (r : References) (body : List Statement) :
    r.Begins (r.collectAll body) := by
  rw [collectAll_eq_insertMany]
  obtain ⟨hattributes, huniforms, hvaryings, htemps⟩ := r.prefix_insertMany
    (body.flatMap Statement.mentions)
  exact ⟨hattributes, huniforms, hvaryings, htemps⟩

/-- A tree among those that were collected adds nothing. -/
theorem collect_collectAll (hs : s ∈ body) : (r.collectAll body).collect s = r.collectAll body := by
  have hmentions : ∀ v ∈ s.mentions, v ∈ body.flatMap Statement.mentions := fun v hv =>
    List.mem_flatMap.mpr ⟨s, hs, hv⟩
  -- what a class takes from the mentions of `s` it has taken from those of the whole list
  have hclass : ∀ {α : Type} (class? : Variable → Option α),
      ∀ a ∈ s.mentions.filterMap class?,
        a ∈ (body.flatMap Statement.mentions).filterMap class? := by
    intro α class? a ha
    obtain ⟨v, hv, hva⟩ := List.mem_filterMap.mp ha
    exact List.mem_filterMap.mpr ⟨v, hmentions v hv, hva⟩
  rw [collectAll_eq_insertMany, collect_eq_insertMany, insertMany_eq _ s.mentions, insertMany_eq r]
  congr 1
  all_goals
    exact OrderedSet.insertMany_of_forall_mem fun a ha =>
      OrderedSet.mem_insertMany.mpr (.inr (hclass _ a ha))

theorem reorders_collectAll (h : body.Perm other) :
    (r.collectAll body).Reorders (r.collectAll other) := by
  have hmentions := h.flatMap_right Statement.mentions
  rw [collectAll_eq_insertMany, collectAll_eq_insertMany, insertMany_eq r, insertMany_eq r]
  exact ⟨OrderedSet.perm_insertMany _ (hmentions.filterMap _),
    OrderedSet.perm_insertMany _ (hmentions.filterMap _),
    OrderedSet.perm_insertMany _ (hmentions.filterMap _),
    OrderedSet.perm_insertMany _ (hmentions.filterMap _)⟩

/-- What it means to collect trees one after another into what was there before. -/
structure Accumulates (r : References) (body : List Statement) : Prop where
  block : r.collectAll body = r.collect (.block body)
  /-- Whatever has been collected keeps its place. -/
  kept : ∀ later, (r.collectAll body).Begins (r.collectAll (body ++ later))
  again : ∀ s ∈ body, (r.collectAll body).collect s = r.collectAll body
  reordered : ∀ other, body.Perm other → (r.collectAll body).Reorders (r.collectAll other)

end References

/-- The uniforms of a program are those of one collection over both of its trees. -/
theorem Program.uniforms_interface (p : Program) :
    p.interface.uniforms =
      (References.empty.collectAll [p.vertex.body, p.fragment.body]).uniforms := by
  have hcollect : ∀ (r : References) (s : Statement), (r.collect s).uniforms =
      r.uniforms.insertMany (s.mentions.filterMap Variable.uniform?) := by
    intro r s
    rw [References.collect_eq_insertMany, References.insertMany_eq]
  change (References.empty.collect p.vertex.body).uniforms.union
      (References.empty.collect p.fragment.body).uniforms =
    ((References.empty.collect p.vertex.body).collect p.fragment.body).uniforms
  rw [hcollect _ p.fragment.body, hcollect _ p.fragment.body, OrderedSet.union_insertMany]
  rfl

/-- Collecting trees one after another is collecting the block of them, and the uniforms
of a program are collected in this way from its two trees. -/
theorem References.accumulates_collectAll :
    (∀ (r : References) (body : List Statement), r.Accumulates body) ∧
      ∀ p : Program, p.interface.uniforms =
        (References.empty.collectAll [p.vertex.body, p.fragment.body]).uniforms := by
  refine ⟨fun r body => ⟨r.collectAll_eq_collect_block body, fun later => ?_,
    fun s hs => collect_collectAll hs, fun other h => reorders_collectAll h⟩,
    Program.uniforms_interface⟩
  rw [collectAll_append]
  exact begins_collectAll _ later

end ShaderTree
