import ShaderTree.Proofs.CacheHistory

/-!
# Identity of programs and what a cache serves

A cache knows a program by its identity only.  A `Session` creates programs, copies
them and hands them to one cache.  Each program comes with the number of the
creation that it stems from; a copy has the number of its original.

As long as the identities of a supply do not come round again, two programs have the
same identity exactly if they stem from the same creation, and then they are the
same program.  So whatever a cache gives out for a program was compiled from the
sources of this program.
-/

namespace ShaderTree

open Glsl

/-- A program, with the number of the creation that it stems from. -/
structure Handle where
  program : Program
  creation : Nat

/-- Programs that were made from one supply, and a cache that serves them. -/
structure Session (α : Type) where
  supply : Supply
  created : Nat := 0
  handles : List Handle := []
  cache : Cache α

namespace Session

variable {ε α : Type}

/-- One thing that is done in a session. Programs are called by their places. -/
inductive Act (ε α : Type) where
  | create (name : String) (vertex : Shader .vertex) (fragment : Shader .fragment)
  | clone (place : Nat)
  | request (place : Nat) (epoch : Epoch) (compile : Sources → Except ε α)
  | get (place : Nat)
  | contains (place : Nat)
  | invalidate

def Act.isCreate : Act ε α → Bool
  | .create _ _ _ => true
  | _ => false

def after (s : Session α) : Act ε α → Session α
  | .create name vertex fragment =>
    let created := s.supply.create name vertex fragment
    { s with
      supply := created.2
      created := s.created + 1
      handles := s.handles ++ [⟨created.1, s.created⟩] }
  | .clone place => { s with handles := s.handles ++ s.handles[place]?.toList }
  | .request place epoch compile =>
    match s.handles[place]? with
    | some h => { s with cache := (s.cache.request h.program epoch compile).value.2 }
    | none => s
  | .invalidate => { s with cache := s.cache.invalidate.value }
  | .get _ | .contains _ => s

/-- A session that starts with nothing but a supply. -/
def run (supply : Supply) (options : Options) (acts : List (Act ε α)) : Session α :=
  acts.foldl after { supply, cache := { options } }

@[simp] theorem run_concat (supply : Supply) (options : Options) (acts : List (Act ε α))
    (act : Act ε α) : run supply options (acts ++ [act]) = (run supply options acts).after act := by
  simp [run]

/-- In the run some compiler was given `sources` and made `v` of them. -/
def Invoked (supply : Supply) (options : Options) (acts : List (Act ε α)) (sources : Sources)
    (v : α) : Prop :=
  ∃ before place epoch compile later h, acts = before ++ .request place epoch compile :: later ∧
    (run supply options before).handles[place]? = some h ∧
    ((run supply options before).cache.request h.program epoch compile).value.1.ranCompiler ∧
    (h.program.glsl options).value = .ok sources ∧ compile sources = .ok v

/-- The identities of a session are numbered by creations, on from those of the
supply it started with. -/
structure Numbered (supply : Supply) (s : Session α) : Prop where
  next : s.supply.next.value = supply.next.value + UInt64.ofNat s.created
  creation_lt : ∀ h ∈ s.handles, h.creation < s.created
  id_eq : ∀ h ∈ s.handles, h.program.id.value = supply.next.value + UInt64.ofNat h.creation
  program_eq : ∀ h ∈ s.handles, ∀ h' ∈ s.handles, h.creation = h'.creation →
    h.program = h'.program

section Identity

variable {supply : Supply} {s : Session α} {acts : List (Act ε α)}

/-- Only what has been done to the programs matters for their numbers. -/
theorem Numbered.congr {t : Session α} (h : Numbered supply s) (hsupply : t.supply = s.supply)
    (hcreated : t.created = s.created) (hhandles : ∀ x ∈ t.handles, x ∈ s.handles) :
    Numbered supply t := by
  refine ⟨?_, fun x hx => ?_, fun x hx => h.id_eq x (hhandles x hx), fun x hx y hy => ?_⟩
  · rw [hsupply, hcreated]
    exact h.next
  · rw [hcreated]
    exact h.creation_lt x (hhandles x hx)
  · exact h.program_eq x (hhandles x hx) y (hhandles y hy)

theorem Numbered.create (h : Numbered supply s) (name : String) (vertex : Shader .vertex)
    (fragment : Shader .fragment) :
    Numbered supply (s.after (.create name vertex fragment : Act ε α)) := by
  -- the new program carries a number that no earlier one has
  have hold : ∀ x ∈ s.handles, x.creation ≠ s.created := fun x hx => (h.creation_lt x hx).ne
  refine ⟨?_, fun x hx => ?_, fun x hx => ?_, fun x hx y hy hxy => ?_⟩
  · change s.supply.next.value + 1 = _
    rw [h.next, UInt64.add_assoc]
    exact congrArg _ (UInt64.ofNat_add _ _).symm
  · rcases List.mem_append.mp hx with hx | hx
    · exact (h.creation_lt x hx).trans (Nat.lt_succ_self _)
    · rw [List.mem_singleton.mp hx]
      exact Nat.lt_succ_self _
  · rcases List.mem_append.mp hx with hx | hx
    · exact h.id_eq x hx
    · rw [List.mem_singleton.mp hx]
      exact h.next
  · rcases List.mem_append.mp hx with hx | hx <;> rcases List.mem_append.mp hy with hy | hy
    · exact h.program_eq x hx y hy hxy
    · rw [List.mem_singleton.mp hy] at hxy
      exact absurd hxy (hold x hx)
    · rw [List.mem_singleton.mp hx] at hxy
      exact absurd hxy.symm (hold y hy)
    · rw [List.mem_singleton.mp hx, List.mem_singleton.mp hy]

theorem Numbered.after (h : Numbered supply s) (act : Act ε α) : Numbered supply (s.after act) := by
  cases act with
  | create name vertex fragment => exact h.create name vertex fragment
  | clone place =>
      refine h.congr rfl rfl fun x hx => ?_
      rcases List.mem_append.mp hx with hx | hx
      · exact hx
      · exact List.mem_of_getElem? (Option.mem_toList.mp hx)
  | request place epoch compile =>
      rw [Session.after]
      split
      · exact h.congr rfl rfl fun _ hx => hx
      · exact h
  | get place => exact h
  | contains place => exact h
  | invalidate => exact h.congr rfl rfl fun _ hx => hx

theorem numbered_run (supply : Supply) (options : Options) (acts : List (Act ε α)) :
    Numbered supply (run supply options acts) := by
  induction acts using List.reverseRecOn with
  | nil =>
      refine ⟨?_, fun _ hx => ?_, fun _ hx => ?_, fun _ hx => ?_⟩
      · simp [run]
      all_goals cases hx
  | append_singleton acts act ih =>
      rw [run_concat]
      exact ih.after act

theorem created_run (supply : Supply) (options : Options) (acts : List (Act ε α)) :
    (run supply options acts).created = acts.countP Act.isCreate := by
  induction acts using List.reverseRecOn with
  | nil => rfl
  | append_singleton acts act ih =>
      rw [run_concat, List.countP_append, ← ih]
      cases act with
      | request place epoch compile =>
          rw [Session.after]
          split <;> rfl
      | _ => rfl

/-- Two programs have the same identity exactly if they stem from the same
creation. -/
theorem Numbered.id_eq_iff (h : Numbered supply s) (hcreated : s.created < 2 ^ 64) {x y : Handle}
    (hx : x ∈ s.handles) (hy : y ∈ s.handles) :
    x.program.id = y.program.id ↔ x.creation = y.creation := by
  constructor
  · intro hid
    have hvalue := congrArg ProgramId.value hid
    rw [h.id_eq x hx, h.id_eq y hy, UInt64.add_right_inj] at hvalue
    have hlt : x.creation < UInt64.size := (h.creation_lt x hx).trans hcreated
    have hlt' : y.creation < UInt64.size := (h.creation_lt y hy).trans hcreated
    have hnat := congrArg UInt64.toNat hvalue
    rwa [UInt64.toNat_ofNat_of_lt' hlt, UInt64.toNat_ofNat_of_lt' hlt'] at hnat
  · intro hcreation
    rw [h.program_eq x hx y hy hcreation]

end Identity

section Coherence

variable {supply : Supply} {options : Options} {acts : List (Act ε α)} {id : ProgramId} {v : α}
  {x : Handle}

theorem mem_handles_after {s : Session α} (hx : x ∈ s.handles) (act : Act ε α) :
    x ∈ (s.after act).handles := by
  cases act with
  | create name vertex fragment => exact List.mem_append_left _ hx
  | clone place => exact List.mem_append_left _ hx
  | request place epoch compile =>
      rw [after]
      split
      · exact hx
      · exact hx
  | get place => exact hx
  | contains place => exact hx
  | invalidate => exact hx

theorem options_run (supply : Supply) (options : Options) (acts : List (Act ε α)) :
    (run supply options acts).cache.options = options := by
  induction acts using List.reverseRecOn with
  | nil => rfl
  | append_singleton acts act ih =>
      rw [run_concat]
      cases act with
      | request place epoch compile =>
          rw [after]
          split
          · exact (Cache.options_request _ _ epoch compile).trans ih
          · exact ih
      | _ => exact ih

/-- The entry `v` under `id` was compiled from the sources of a program with this
identity. -/
def Sourced (supply : Supply) (options : Options) (acts : List (Act ε α)) (id : ProgramId)
    (v : α) : Prop :=
  ∃ x ∈ (run supply options acts).handles, x.program.id = id ∧
    ∃ sources, (x.program.glsl options).value = .ok sources ∧
      Invoked supply options acts sources v

theorem Sourced.concat (h : Sourced supply options acts id v) (act : Act ε α) :
    Sourced supply options (acts ++ [act]) id v := by
  obtain ⟨x, hx, hid, sources, hglsl, before, place, epoch, compile, later, y, rfl, hy⟩ := h
  rw [Sourced, run_concat]
  exact ⟨x, mem_handles_after hx act, hid, sources, hglsl, before, place, epoch, compile,
    later ++ [act], y, by simp, hy⟩

/-- Every entry of the cache was compiled from the sources of one of the programs. -/
theorem sourced_of_lookup (h : (run supply options acts).cache.entries.lookup id = some v) :
    Sourced supply options acts id v := by
  induction acts using List.reverseRecOn with
  | nil => cases h
  | append_singleton acts act ih =>
      rw [run_concat] at h
      cases act with
      | request place epoch compile =>
          rw [after] at h
          split at h
          · next x hx =>
              rcases Cache.lookup_request_eq_some_iff.mp h with
                ⟨-, hold⟩ | ⟨hid, hran, sources, hglsl, hcompile⟩
              · exact (ih hold).concat _
              · rw [options_run] at hglsl
                rw [Sourced, run_concat]
                exact ⟨x, mem_handles_after (List.mem_of_getElem? hx) _, hid, sources, hglsl,
                  acts, place, epoch, compile, [], x, rfl, hx, hran, hglsl, hcompile⟩
          · exact (ih h).concat _
      | invalidate => cases h
      | create name vertex fragment => exact (ih h).concat _
      | clone place => exact (ih h).concat _
      | get place => exact (ih h).concat _
      | contains place => exact (ih h).concat _

/-- What is under the identity of a program was compiled from its own sources. -/
theorem exists_sources_of_lookup (hcreated : acts.countP Act.isCreate < 2 ^ 64)
    (hx : x ∈ (run supply options acts).handles)
    (h : (run supply options acts).cache.entries.lookup x.program.id = some v) :
    ∃ sources, (x.program.glsl options).value = .ok sources ∧
      Invoked supply options acts sources v := by
  obtain ⟨y, hy, hid, sources, hglsl, hinvoked⟩ := sourced_of_lookup h
  have hnumbered := numbered_run supply options acts
  rw [← created_run supply options acts] at hcreated
  have hcreation := (hnumbered.id_eq_iff hcreated hy hx).mp hid
  rw [hnumbered.program_eq y hy x hx hcreation] at hglsl
  exact ⟨sources, hglsl, hinvoked⟩

/-- What a request gives out was compiled from the program's own sources. -/
theorem exists_sources_of_value? (hcreated : acts.countP Act.isCreate < 2 ^ 64) {place : Nat}
    (hx : (run supply options acts).handles[place]? = some x) {epoch : Epoch}
    {compile : Sources → Except ε α}
    (h : ((run supply options acts).cache.request x.program epoch compile).value.1.value? =
      some v) :
    ∃ sources, (x.program.glsl options).value = .ok sources ∧
      Invoked supply options (acts ++ [.request place epoch compile]) sources v := by
  refine exists_sources_of_lookup (by simpa [Act.isCreate] using hcreated) ?_ ?_
  · rw [run_concat]
    exact mem_handles_after (List.mem_of_getElem? hx) _
  · rw [run_concat, after, hx]
    exact Cache.lookup_request_of_value? h

end Coherence

/-- Identities tell creations apart, and what the cache gives out for a program was
compiled from its sources. -/
structure Coherent (supply : Supply) (options : Options) (acts : List (Act ε α)) : Prop where
  id_eq_iff : ∀ x ∈ (run supply options acts).handles, ∀ y ∈ (run supply options acts).handles,
    x.program.id = y.program.id ↔ x.creation = y.creation
  get? : ∀ x ∈ (run supply options acts).handles, ∀ v,
    (run supply options acts).cache.get? x.program = some v →
      ∃ sources, (x.program.glsl options).value = .ok sources ∧
        Invoked supply options acts sources v
  /-- The compiler that made the value may be that of the request itself. -/
  request : ∀ place x, (run supply options acts).handles[place]? = some x →
    ∀ epoch compile v,
      ((run supply options acts).cache.request x.program epoch compile).value.1.value? = some v →
        ∃ sources, (x.program.glsl options).value = .ok sources ∧
          Invoked supply options (acts ++ [.request place epoch compile]) sources v
  /-- A program without sources is never served. -/
  unserved : ∀ x ∈ (run supply options acts).handles, ∀ fault,
    (x.program.glsl options).value = .error fault →
      (run supply options acts).cache.get? x.program = none ∧
        ∀ epoch (compile : Sources → Except ε α),
          ((run supply options acts).cache.request x.program epoch compile).value.1.value? = none

/-- Every session that creates fewer programs than there are identities is
coherent. -/
theorem coherent_run (supply : Supply) (options : Options) (acts : List (Act ε α))
    (hcreated : acts.countP Act.isCreate < 2 ^ 64) : Coherent supply options acts := by
  refine ⟨fun x hx y hy => ?_, fun x hx v => exists_sources_of_lookup hcreated hx,
    fun place x hx epoch compile v => exists_sources_of_value? hcreated hx,
    fun x hx fault hfault => ⟨?_, fun epoch compile => ?_⟩⟩
  · rw [← created_run supply options acts] at hcreated
    exact (numbered_run supply options acts).id_eq_iff hcreated hx hy
  · refine Option.eq_none_iff_forall_ne_some.mpr fun v h => ?_
    obtain ⟨sources, hglsl, -⟩ := exists_sources_of_lookup hcreated hx h
    rw [hfault] at hglsl
    cases hglsl
  · refine Option.eq_none_iff_forall_ne_some.mpr fun v h => ?_
    obtain ⟨place, hplace⟩ := List.getElem?_of_mem hx
    obtain ⟨sources, hglsl, -⟩ := exists_sources_of_value? hcreated hplace h
    rw [hfault] at hglsl
    cases hglsl

/-- Two programs with the same name and the same trees, a copy of the first and a
program without sources, made from a supply whose identities come round after the
first. -/
theorem coherent_run_twins :
    let body : Statement := .assign .out (.vector .vec4 [.float .one])
    let broken : Statement := .assign .out (.swizzle .out "xyzt")
    let compile (tag : Nat) (sources : Sources) : Except String Nat :=
      .ok (tag + sources.vertex.length)
    let acts : List (Act String Nat) :=
      [.create "solid" ⟨body⟩ ⟨body⟩, .create "solid" ⟨body⟩ ⟨body⟩, .clone 0,
        .create "solid" ⟨body⟩ ⟨broken⟩, .request 2 .first (compile 1000),
        .request 3 .first (compile 2000), .request 0 .first (compile 3000)]
    let served (place : Nat) : Option Nat :=
      (run ⟨⟨0xFFFFFFFFFFFFFFFF⟩⟩ {} acts).handles[place]?.bind fun x =>
        (run ⟨⟨0xFFFFFFFFFFFFFFFF⟩⟩ {} acts).cache.get? x.program
    acts.countP Act.isCreate < 2 ^ 64 ∧ Coherent ⟨⟨0xFFFFFFFFFFFFFFFF⟩⟩ {} acts ∧
      served 0 = some 1161 ∧ served 1 = none ∧ served 2 = some 1161 ∧ served 3 = none := by
  intro body broken compile acts served
  have hcreated : acts.countP Act.isCreate < 2 ^ 64 := by decide
  exact ⟨hcreated, coherent_run _ _ acts hcreated, by decide +kernel⟩

end Session

end ShaderTree
