import Mathlib.Data.List.Induction
import ShaderTree.Proofs.Visits

/-!
# References as lists without repeats

Inserting a list into an ordered set appends what is new in it, each element at
its first place.  Read class by class, the references of a tree are therefore its
mentions of that class with later repeats removed, and more mentions only ever
extend them.

`Statement.declared` puts the four classes one after the other, in the order in
which they are declared.
-/

namespace ShaderTree

section Repeats

variable {α β : Type} [DecidableEq α] [DecidableEq β]

/-- An element at the end of a list is kept if it does not stand before. -/
theorem eraseDups_concat (l : List α) (a : α) :
    (l ++ [a]).eraseDups = if a ∈ l then l.eraseDups else l.eraseDups ++ [a] := by
  rw [List.eraseDups_append]
  by_cases ha : a ∈ l
  · simp [List.removeAll, ha]
  · simp [List.removeAll, ha, List.eraseDups_cons]

theorem filter_eraseDups (p : α → Bool) (l : List α) :
    l.eraseDups.filter p = (l.filter p).eraseDups := by
  induction l using List.reverseRecOn with
  | nil => rfl
  | append_singleton l a ih =>
      rw [eraseDups_concat, List.filter_append]
      by_cases hp : p a
      · rw [List.filter_cons_of_pos hp, List.filter_nil, eraseDups_concat]
        by_cases ha : a ∈ l
        · rw [if_pos ha, if_pos (List.mem_filter.mpr ⟨ha, hp⟩), ih]
        · rw [if_neg ha, if_neg fun h => ha (List.mem_filter.mp h).1, List.filter_append, ih,
            List.filter_cons_of_pos hp, List.filter_nil]
      · rw [List.filter_cons_of_neg hp, List.filter_nil, List.append_nil, ← ih]
        split
        · rfl
        · rw [List.filter_append, List.filter_cons_of_neg hp, List.filter_nil, List.append_nil]

/-- What a function makes equal need not be told apart before. -/
theorem eraseDups_map_eraseDups (f : α → β) (l : List α) :
    (l.eraseDups.map f).eraseDups = (l.map f).eraseDups := by
  induction l using List.reverseRecOn with
  | nil => rfl
  | append_singleton l a ih =>
      rw [eraseDups_concat, List.map_append, List.map_singleton, eraseDups_concat]
      by_cases ha : a ∈ l
      · rw [if_pos ha, if_pos (List.mem_map_of_mem ha), ih]
      · rw [if_neg ha, List.map_append, List.map_singleton, eraseDups_concat, ih]
        simp only [List.mem_map, List.mem_eraseDups]

theorem eraseDups_map {f : α → β} {l : List α}
    (hf : ∀ a ∈ l, ∀ b ∈ l, f a = f b → a = b) :
    (l.map f).eraseDups = l.eraseDups.map f := by
  induction l using List.reverseRecOn with
  | nil => rfl
  | append_singleton l a ih =>
      have hl := ih fun b hb c hc => hf b (List.mem_append_left _ hb) c (List.mem_append_left _ hc)
      have hmem : f a ∈ l.map f ↔ a ∈ l := by
        refine ⟨fun h => ?_, List.mem_map_of_mem⟩
        obtain ⟨b, hb, hba⟩ := List.mem_map.mp h
        rwa [← hf b (List.mem_append_left _ hb) a (by simp) hba]
      rw [List.map_append, List.map_singleton, eraseDups_concat, eraseDups_concat, hl]
      by_cases ha : a ∈ l
      · rw [if_pos ha, if_pos (hmem.mpr ha)]
      · rw [if_neg ha, if_neg fun h => ha (hmem.mp h), List.map_append, List.map_singleton]

theorem eraseDups_of_nodup {l : List α} (h : l.Nodup) : l.eraseDups = l := by
  induction l with
  | nil => rfl
  | cons a l ih =>
      obtain ⟨ha, hl⟩ := List.nodup_cons.mp h
      have hfilter : l.filter (fun b => !b == a) = l :=
        List.filter_eq_self.mpr fun b hb => by simpa using fun hba : b = a => ha (hba ▸ hb)
      rw [List.eraseDups_cons, hfilter, ih hl]

theorem eraseDups_eq_nil_iff {l : List α} : l.eraseDups = [] ↔ l = [] := by
  simp only [List.eq_nil_iff_forall_not_mem, List.mem_eraseDups]

end Repeats

namespace OrderedSet

variable {α : Type} [DecidableEq α]

theorem toList_insertMany (s : OrderedSet α) (as : List α) :
    (s.insertMany as).toList = s.toList ++ (as.filter (· ∉ s.toList)).eraseDups := by
  induction as generalizing s with
  | nil => simp
  | cons a as ih =>
      rw [insertMany_cons, ih, toList_insert]
      by_cases ha : a ∈ s.toList
      · simp [ha]
      · -- what is new after `a` is what is new before it, less `a`
        have hfilter : as.filter (fun b => b ∉ s.toList ++ [a]) =
            (as.filter (fun b => b ∉ s.toList)).filter (fun b => !b == a) := by
          rw [List.filter_filter]
          apply List.filter_congr
          intro b _
          by_cases hb : b = a <;> simp [hb]
        rw [if_neg ha, hfilter, List.filter_cons_of_pos (by simpa using ha), List.eraseDups_cons]
        simp

theorem toList_insertMany_empty (as : List α) :
    ((∅ : OrderedSet α).insertMany as).toList = as.eraseDups := by
  have hnew : as.filter (· ∉ (∅ : OrderedSet α).toList) = as :=
    List.filter_eq_self.mpr fun a _ => decide_eq_true List.not_mem_nil
  rw [toList_insertMany, hnew]
  rfl

/-- Members keep their places when more is inserted. -/
theorem toList_prefix_insertMany (s : OrderedSet α) (as : List α) :
    s.toList <+: (s.insertMany as).toList := by
  rw [toList_insertMany]
  exact List.prefix_append _ _

theorem toList_union (s t : OrderedSet α) :
    (s.union t).toList = (s.toList ++ t.toList).eraseDups := by
  rw [union, toList_insertMany, List.eraseDups_append, eraseDups_of_nodup s.nodup]
  simp [List.removeAll]

/-- What is in one list and not in another, each element at its first place. -/
theorem toList_diff_ofList (as bs : List α) :
    ((ofList as).diff (ofList bs)).toList = (as.filter (· ∉ bs)).eraseDups := by
  have hof : ∀ l : List α, (ofList l).toList = l.eraseDups := toList_insertMany_empty
  have hmem : ∀ a, a ∈ ofList bs ↔ a ∈ bs := by
    intro a
    change a ∈ (ofList bs).toList ↔ _
    rw [hof, List.mem_eraseDups]
  simp only [diff, hof, hmem]
  exact filter_eraseDups _ as

end OrderedSet

namespace Variable

def attribute? : Variable → Option Attribute
  | .attribute a => some a
  | _ => none

def uniform? : Variable → Option Uniform
  | .uniform u => some u
  | _ => none

def varying? : Variable → Option Varying
  | .varying v => some v
  | _ => none

def temp? : Variable → Option Temp
  | .temp t => some t
  | _ => none

@[simp] theorem attribute?_eq_some_iff {v : Variable} {a : Attribute} :
    v.attribute? = some a ↔ v = .attribute a := by
  cases v <;> simp [attribute?]

@[simp] theorem uniform?_eq_some_iff {v : Variable} {u : Uniform} :
    v.uniform? = some u ↔ v = .uniform u := by
  cases v <;> simp [uniform?]

@[simp] theorem varying?_eq_some_iff {v : Variable} {w : Varying} :
    v.varying? = some w ↔ v = .varying w := by
  cases v <;> simp [varying?]

@[simp] theorem temp?_eq_some_iff {v : Variable} {t : Temp} :
    v.temp? = some t ↔ v = .temp t := by
  cases v <;> simp [temp?]

end Variable

namespace References

/-- Each class of variables is inserted into its own set. -/
theorem insertMany_eq (r : References) (vs : List Variable) :
    r.insertMany vs =
      { attributes := r.attributes.insertMany (vs.filterMap Variable.attribute?)
        uniforms := r.uniforms.insertMany (vs.filterMap Variable.uniform?)
        varyings := r.varyings.insertMany (vs.filterMap Variable.varying?)
        temps := r.temps.insertMany (vs.filterMap Variable.temp?) } := by
  induction vs generalizing r with
  | nil => rfl
  | cons v vs ih =>
      rw [insertMany_cons, ih]
      cases v <;> rfl

/-- The variables of all four classes, in the order of their declarations. -/
def declared (r : References) : List Variable :=
  r.attributes.toList.map .attribute ++ r.uniforms.toList.map .uniform ++
    r.varyings.toList.map .varying ++ r.temps.toList.map .temp

theorem names_eq_map_declared (r : References) : r.names = r.declared.map Variable.name := by
  simp only [names, declared, List.map_append, List.map_map]
  rfl

end References

namespace Statement

/-- The attributes that a tree mentions, without repeats. -/
def attributes (s : Statement) : List Attribute :=
  (s.mentions.filterMap Variable.attribute?).eraseDups

/-- The uniforms that a tree mentions, without repeats. -/
def uniforms (s : Statement) : List Uniform :=
  (s.mentions.filterMap Variable.uniform?).eraseDups

/-- The varyings that a tree mentions, without repeats. -/
def varyings (s : Statement) : List Varying :=
  (s.mentions.filterMap Variable.varying?).eraseDups

/-- The temporaries that a tree mentions, without repeats. -/
def temps (s : Statement) : List Temp := (s.mentions.filterMap Variable.temp?).eraseDups

/-- All variables that a tree mentions and that have a declaration, in the order
of their declarations. -/
def declared (s : Statement) : List Variable :=
  s.attributes.map .attribute ++ s.uniforms.map .uniform ++ s.varyings.map .varying ++
    s.temps.map .temp

theorem mem_declared {s : Statement} {v : Variable} :
    v ∈ s.declared ↔ v ∈ s.mentions ∧ v ≠ .output := by
  simp only [declared, attributes, uniforms, varyings, temps, List.mem_append, List.mem_map,
    List.mem_eraseDups, List.mem_filterMap]
  cases v <;> simp

end Statement

namespace References

/-- Class by class, the mentions of a tree leave its distinct variables. -/
theorem toList_insertMany_mentions (s : Statement) :
    (empty.insertMany s.mentions).attributes.toList = s.attributes ∧
      (empty.insertMany s.mentions).uniforms.toList = s.uniforms ∧
      (empty.insertMany s.mentions).varyings.toList = s.varyings ∧
      (empty.insertMany s.mentions).temps.toList = s.temps := by
  rw [insertMany_eq]
  exact ⟨OrderedSet.toList_insertMany_empty _, OrderedSet.toList_insertMany_empty _,
    OrderedSet.toList_insertMany_empty _, OrderedSet.toList_insertMany_empty _⟩

theorem declared_insertMany_mentions (s : Statement) :
    (empty.insertMany s.mentions).declared = s.declared := by
  obtain ⟨hattributes, huniforms, hvaryings, htemps⟩ := toList_insertMany_mentions s
  rw [declared, hattributes, huniforms, hvaryings, htemps, Statement.declared]

end References

end ShaderTree
