import ShaderTree.Proofs.Generation

/-!
# Collecting and generating

Two passes go over the same tree.  Collecting meets every node; generating stops
at the first offence.  Both insert the variables they meet into ordered sets, so
what a generator holds after a run is an initial part of what collecting gives,
and all of it when the run went through the whole tree.
-/

namespace ShaderTree

open Glsl

namespace Visit

/-- A name clash is never the fault of one node. -/
theorem offence?_ne_nameClash (stage : Stage) (v : Visit) (name : String) :
    v.offence? stage ≠ some (.nameClash name) := by
  unfold offence?
  split
  · next a => split <;> simp
  · next x => split <;> simp
  · next ty parts =>
      split
      · simp
      · unfold checkParts
        dsimp only
        split <;> simp [fault?]
  · next source mask =>
      unfold checkMask
      split <;> simp [fault?]
  · simp

end Visit

namespace References

/-- More mentions leave what is there in its place. -/
theorem prefix_insertMany (r : References) (vs : List Variable) :
    r.attributes.toList <+: (r.insertMany vs).attributes.toList ∧
      r.uniforms.toList <+: (r.insertMany vs).uniforms.toList ∧
      r.varyings.toList <+: (r.insertMany vs).varyings.toList ∧
      r.temps.toList <+: (r.insertMany vs).temps.toList := by
  rw [insertMany_eq]
  exact ⟨OrderedSet.toList_prefix_insertMany _ _, OrderedSet.toList_prefix_insertMany _ _,
    OrderedSet.toList_prefix_insertMany _ _, OrderedSet.toList_prefix_insertMany _ _⟩

end References

namespace Glsl

theorem complaint?_cases {declared : List Variable} {fault : Fault}
    (h : complaint? declared = some fault) :
    (∃ name, fault = .nameClash name) ∨ ∃ v ∈ declared, fault = .undeclarable v.ty v.name := by
  rw [complaint?, Option.or_eq_some_iff] at h
  rcases h with hclash | ⟨-, hundeclarable⟩
  · obtain ⟨name, -, hname⟩ := Option.map_eq_some_iff.mp hclash
    exact .inl ⟨name, hname.symm⟩
  · obtain ⟨v, hv, hfault⟩ := List.exists_of_findSome?_eq_some hundeclarable
    refine .inr ⟨v, hv, ?_⟩
    cases hname : v.ty.glslName? with
    | some word => simp [undeclarable?, hname] at hfault
    | none => simpa [undeclarable?, hname] using hfault.symm

namespace Generator

/-- A run that goes through the whole tree ends well, in a clash, or at a
variable that cannot be declared, and only such a run does. -/
theorem isUnbroken_iff (g : Generator) (root : Statement) :
    root.IsUnbroken g.stage ↔
      (∃ source, (g.generate root).value.1 = .ok source) ∨
        (∃ name, (g.generate root).value.1 = .error (.nameClash name)) ∨
        ∃ ty name, (g.generate root).value.1 = .error (.undeclarable ty name) ∧
          ∀ v ∈ root.visits, v.offence? g.stage ≠ some (.undeclarable ty name) := by
  simp only [generate_result, settle_eq_ok_iff, settle_eq_error_iff, Statement.verdict]
  constructor
  · intro hunbroken
    have hvisits : root.visits.findSome? (Visit.offence? g.stage) = none :=
      List.findSome?_eq_none_iff.mpr hunbroken
    rw [hvisits, Option.none_or]
    cases hcomplaint : complaint? root.declared with
    | none => exact .inl ⟨_, rfl, rfl⟩
    | some fault =>
        rcases complaint?_cases hcomplaint with ⟨name, rfl⟩ | ⟨v, -, rfl⟩
        · exact .inr (.inl ⟨name, rfl⟩)
        · refine .inr (.inr ⟨v.ty, v.name, rfl, fun w hw => ?_⟩)
          simp [hunbroken w hw]
  · intro hresult
    refine List.findSome?_eq_none_iff.mp ?_
    cases hvisits : root.visits.findSome? (Visit.offence? g.stage) with
    | none => rfl
    | some fault =>
        obtain ⟨v, hv, hoffence⟩ := List.exists_of_findSome?_eq_some hvisits
        rw [hvisits, Option.some_or] at hresult
        rcases hresult with ⟨_, hnone, -⟩ | ⟨name, hclash⟩ | ⟨ty, name, hfault, hnever⟩
        · cases hnone
        · exact absurd (hoffence.trans hclash) (v.offence?_ne_nameClash _ name)
        · exact absurd (hoffence.trans hfault) (hnever v hv)

/-- What is held after a run is extended by collecting the tree. -/
theorem exists_collect_eq_insertMany (g : Generator) (root : Statement) :
    ∃ vs, References.empty.collect root = (g.generate root).value.2.references.insertMany vs := by
  obtain ⟨rest, hrest⟩ := (List.takeWhile_prefix (l := root.visits)
    fun v => (v.offence? g.stage).isNone).filterMap Visit.mention?
  refine ⟨rest, ?_⟩
  rw [References.collect_eq_insertMany, generate_references, ← References.insertMany_append, hrest]
  rfl

/-- After any run the attributes, uniforms and varyings of a generator begin those
that collecting gives, and they are the same after a run that went through the
whole tree. -/
theorem generate_agrees_with_collect (g : Generator) (history : List Call) (root : Statement) :
    let run := ((g.serve history).generate root).value
    let collected := References.empty.collect root
    (run.2.references.attributes.toList <+: collected.attributes.toList ∧
        run.2.references.uniforms.toList <+: collected.uniforms.toList ∧
        run.2.references.varyings.toList <+: collected.varyings.toList) ∧
      ((∃ source, run.1 = .ok source) ∨ (∃ name, run.1 = .error (.nameClash name)) ∨
          (∃ ty name, run.1 = .error (.undeclarable ty name) ∧
            ∀ v ∈ root.visits, v.offence? g.stage ≠ some (.undeclarable ty name)) →
        run.2.references.attributes.toList = collected.attributes.toList ∧
          run.2.references.uniforms.toList = collected.uniforms.toList ∧
          run.2.references.varyings.toList = collected.varyings.toList) := by
  intro run collected
  constructor
  · obtain ⟨vs, hvs⟩ := exists_collect_eq_insertMany (g.serve history) root
    have hinitial := run.2.references.prefix_insertMany vs
    rw [show collected = _ from hvs]
    exact ⟨hinitial.1, hinitial.2.1, hinitial.2.2.1⟩
  · intro hresult
    have hunbroken := (isUnbroken_iff (g.serve history) root).mpr (by rwa [stage_serve])
    have hheld : run.2.references = collected :=
      (references_of_isUnbroken hunbroken).trans (References.collect_eq_insertMany _ _).symm
    rw [hheld]
    exact ⟨rfl, rfl, rfl⟩

end Generator

end Glsl

end ShaderTree
