import Mathlib.Data.List.Induction
import Mathlib.Data.Set.Card
import ShaderTree.Cache

/-!
# What a cache holds after a run

A request does one of four things, and `Cache.Obtained` lists them with what each
does to the cache.  From this one case distinction follows what a request leaves
for every identity: an entry that was there in the same epoch, or the value that
was compiled just now.

An entry is `Live` after a run if some request in the run compiled it and no later
call dropped it, that is, no later call invalidated the cache or came from another
epoch.  A cache that starts empty holds exactly the live entries.
-/

namespace ShaderTree

open Glsl

/-- The value with which a request was answered, if it did not fail. -/
def Answer.value? {ε α : Type} : Answer ε α → Option α
  | .kept value | .compiled value => some value
  | .refused _ | .failed _ => none

namespace Cache

variable {ε α : Type} {c : Cache α} {p : Program} {epoch : Epoch}
  {compile : Sources → Except ε α} {id : ProgramId} {v : α}

/-- What can become of a request in the cache's own epoch. -/
inductive Obtained (c : Cache α) (p : Program) (compile : Sources → Except ε α) :
    Answer ε α × Cache α → Prop where
  | kept {v : α} (hget : c.get? p = some v) : Obtained c p compile (.kept v, c)
  | refused {fault : Fault} (hget : c.get? p = none)
      (hglsl : (p.glsl c.options).value = .error fault) : Obtained c p compile (.refused fault, c)
  | failed {sources : Sources} {error : ε} (hget : c.get? p = none)
      (hglsl : (p.glsl c.options).value = .ok sources) (hcompile : compile sources = .error error) :
      Obtained c p compile (.failed error, c)
  | compiled {sources : Sources} {v : α} (hget : c.get? p = none)
      (hglsl : (p.glsl c.options).value = .ok sources) (hcompile : compile sources = .ok v) :
      Obtained c p compile (.compiled v, { c with entries := c.entries ++ [(p.id, v)] })

theorem obtained (c : Cache α) (p : Program) (compile : Sources → Except ε α) :
    Obtained c p compile (c.obtain p compile).value := by
  unfold obtain
  split
  · next v hget => exact .kept hget
  · next hget =>
      rw [Logged.value_bind]
      split
      · next fault hglsl => exact .refused hget hglsl
      · next sources hglsl =>
          split
          · next error hcompile => exact .failed hget hglsl hcompile
          · next v hcompile => exact .compiled hget hglsl hcompile

/-- The cache in the epoch of a request, before it is answered. -/
def entered (c : Cache α) (epoch : Epoch) : Cache α :=
  if epoch = c.epoch then c else { c.clear with epoch }

theorem value_enter (c : Cache α) (epoch : Epoch) : (c.enter epoch).value = c.entered epoch := rfl

theorem obtained_request (c : Cache α) (p : Program) (epoch : Epoch)
    (compile : Sources → Except ε α) :
    Obtained (c.entered epoch) p compile (c.request p epoch compile).value := by
  rw [← value_enter, request, Logged.value_bind]
  exact obtained _ p compile

@[simp] theorem options_entered (c : Cache α) (epoch : Epoch) :
    (c.entered epoch).options = c.options := by
  unfold entered
  split <;> rfl

@[simp] theorem epoch_entered (c : Cache α) (epoch : Epoch) :
    (c.entered epoch).epoch = epoch := by
  unfold entered
  split
  · next h => exact h.symm
  · rfl

theorem lookup_entered_eq_some_iff :
    (c.entered epoch).entries.lookup id = some v ↔
      epoch = c.epoch ∧ c.entries.lookup id = some v := by
  unfold entered
  split
  · next h => simp [h]
  · next h => simp [h, clear]

/-- The request runs the compiler, which makes `v` of the program's sources. -/
def Compiles (c : Cache α) (p : Program) (epoch : Epoch) (compile : Sources → Except ε α)
    (v : α) : Prop :=
  (c.request p epoch compile).value.1.ranCompiler ∧
    ∃ sources, (p.glsl c.options).value = .ok sources ∧ compile sources = .ok v

/-- An entry at the end is found if there is none before it. -/
theorem lookup_concat_eq_some_iff {entries : List (ProgramId × α)} {key : ProgramId} {w : α} :
    (entries ++ [(key, w)]).lookup id = some v ↔
      entries.lookup id = some v ∨ (entries.lookup id = none ∧ key = id ∧ w = v) := by
  rw [List.lookup_append]
  cases entries.lookup id with
  | some u => simp
  | none =>
      by_cases hid : id = key
      · simp [hid]
      · have hkey : (id == key) = false := by simpa using hid
        simp [List.lookup_cons, hkey, Ne.symm hid]

theorem mem_map_fst_iff {entries : List (ProgramId × α)} :
    id ∈ entries.map Prod.fst ↔ ∃ v, entries.lookup id = some v := by
  rw [← Option.isSome_iff_exists, List.lookup_isSome_iff]
  simp

section Step

theorem options_request (c : Cache α) (p : Program) (epoch : Epoch)
    (compile : Sources → Except ε α) :
    (c.request p epoch compile).value.2.options = c.options := by
  have h := obtained_request c p epoch compile
  generalize (c.request p epoch compile).value = result at h
  cases h <;> exact options_entered c epoch

theorem epoch_request (c : Cache α) (p : Program) (epoch : Epoch)
    (compile : Sources → Except ε α) :
    (c.request p epoch compile).value.2.epoch = epoch := by
  have h := obtained_request c p epoch compile
  generalize (c.request p epoch compile).value = result at h
  cases h <;> exact epoch_entered c epoch

/-- What a request leaves in the cache. -/
theorem lookup_request_eq_some_iff :
    (c.request p epoch compile).value.2.entries.lookup id = some v ↔
      (epoch = c.epoch ∧ c.entries.lookup id = some v) ∨
        (p.id = id ∧ c.Compiles p epoch compile v) := by
  rw [Compiles, ← lookup_entered_eq_some_iff]
  have h := obtained_request c p epoch compile
  generalize (c.request p epoch compile).value = result at h
  cases h with
  | kept => simp [Answer.ranCompiler]
  | refused => simp [Answer.ranCompiler]
  | failed _ hglsl hcompile =>
      rw [options_entered] at hglsl
      simp [hglsl, hcompile]
  | @compiled sources w hget hglsl hcompile =>
      rw [options_entered] at hglsl
      have hnew : p.id = id → (c.entered epoch).entries.lookup id = none := fun h => h ▸ hget
      simp only [lookup_concat_eq_some_iff, Answer.ranCompiler, hglsl, Except.ok.injEq,
        exists_eq_left', hcompile, true_and]
      exact or_congr_right ⟨fun h => h.2, fun h => ⟨hnew h.1, h⟩⟩

/-- The identities in a cache stay distinct. -/
theorem nodup_request (h : (c.entries.map Prod.fst).Nodup) :
    ((c.request p epoch compile).value.2.entries.map Prod.fst).Nodup := by
  have hentered : ((c.entered epoch).entries.map Prod.fst).Nodup := by
    unfold entered
    split
    · exact h
    · exact List.nodup_nil
  have hobtained := obtained_request c p epoch compile
  generalize (c.request p epoch compile).value = result at hobtained
  cases hobtained with
  | kept => exact hentered
  | refused => exact hentered
  | failed => exact hentered
  | compiled hget =>
      have hnew : p.id ∉ (c.entered epoch).entries.map Prod.fst := by
        intro hmem
        obtain ⟨w, hw⟩ := mem_map_fst_iff.mp hmem
        rw [get?, hw] at hget
        cases hget
      rw [List.map_append, List.map_singleton, ← List.concat_eq_append]
      exact hentered.concat hnew

/-- A request that fails leaves the cache as it was when the request came to its
epoch. -/
theorem request_of_value?_eq_none (h : (c.request p epoch compile).value.1.value? = none) :
    (c.request p epoch compile).value.2 = c.entered epoch := by
  have hobtained := obtained_request c p epoch compile
  generalize (c.request p epoch compile).value = result at h hobtained
  cases hobtained with
  | kept => rfl
  | refused => rfl
  | failed => rfl
  | compiled => cases h

/-- The value of a request is what the cache holds after it. -/
theorem lookup_request_of_value? (h : (c.request p epoch compile).value.1.value? = some v) :
    (c.request p epoch compile).value.2.entries.lookup p.id = some v := by
  have hobtained := obtained_request c p epoch compile
  generalize (c.request p epoch compile).value = result at h hobtained
  cases hobtained with
  | kept hget =>
      cases h
      exact hget
  | refused => cases h
  | failed => cases h
  | compiled hget =>
      cases h
      exact lookup_concat_eq_some_iff.mpr (.inr ⟨hget, rfl, rfl⟩)

/-- What is in the cache already is given out again, and nothing changes. -/
theorem request_of_get? (hepoch : epoch = c.epoch) (h : c.get? p = some v) :
    (c.request p epoch compile).value = (.kept v, c) := by
  have hentered : c.entered epoch = c := if_pos hepoch
  have hobtained := obtained_request c p epoch compile
  rw [hentered] at hobtained
  generalize (c.request p epoch compile).value = result at hobtained
  cases hobtained with
  | kept hget =>
      rw [h] at hget
      cases hget
      rfl
  | refused hget => simp [h] at hget
  | failed hget => simp [h] at hget
  | compiled hget => simp [h] at hget

/-- The compiler runs for a program that has sources and no entry in the epoch. -/
theorem ranCompiler_request_iff :
    (c.request p epoch compile).value.1.ranCompiler ↔
      (¬∃ v, epoch = c.epoch ∧ c.get? p = some v) ∧
        ∃ sources, (p.glsl c.options).value = .ok sources := by
  simp only [get?, ← lookup_entered_eq_some_iff]
  have hobtained := obtained_request c p epoch compile
  generalize (c.request p epoch compile).value = result at hobtained
  cases hobtained with
  | kept hget =>
      rw [get?] at hget
      simp [Answer.ranCompiler, hget]
  | refused _ hglsl =>
      rw [options_entered] at hglsl
      simp [Answer.ranCompiler, hglsl]
  | failed hget hglsl =>
      rw [get?] at hget
      rw [options_entered] at hglsl
      simp [Answer.ranCompiler, hget, hglsl]
  | compiled hget hglsl =>
      rw [get?] at hget
      rw [options_entered] at hglsl
      simp [Answer.ranCompiler, hget, hglsl]

end Step

/-- A call on a cache. -/
inductive Call (ε α : Type) where
  | request (p : Program) (epoch : Epoch) (compile : Sources → Except ε α)
  | invalidate
  | get (p : Program)
  | contains (p : Program)

namespace Call

/-- The epoch from which a request comes. -/
def epoch? : Call ε α → Option Epoch
  | .request _ epoch _ => some epoch
  | .invalidate | .get _ | .contains _ => none

/-- The call does not drop entries of the given epoch. -/
def Keeps (epoch : Epoch) : Call ε α → Prop
  | .request _ other _ => other = epoch
  | .invalidate => False
  | .get _ | .contains _ => True

end Call

/-- The cache after one call. -/
def after (c : Cache α) : Call ε α → Cache α
  | .request p epoch compile => (c.request p epoch compile).value.2
  | .invalidate => c.invalidate.value
  | .get _ | .contains _ => c

/-- The cache after a run of calls. -/
def serve (c : Cache α) (calls : List (Call ε α)) : Cache α := calls.foldl after c

/-- The epoch of the last request in a run. -/
def lastEpoch (calls : List (Call ε α)) : Epoch :=
  (calls.filterMap Call.epoch?).getLast?.getD .first

/-- A request in the run compiled `v` for the identity `id` in an epoch, and no call
after it dropped the entry. -/
def Live (c : Cache α) (calls : List (Call ε α)) (epoch : Epoch) (id : ProgramId) (v : α) :
    Prop :=
  ∃ before p compile later, calls = before ++ .request p epoch compile :: later ∧ p.id = id ∧
    (c.serve before).Compiles p epoch compile v ∧ ∀ call ∈ later, call.Keeps epoch

section Run

variable {calls : List (Call ε α)} {call : Call ε α}

@[simp] theorem serve_concat (c : Cache α) (calls : List (Call ε α)) (call : Call ε α) :
    c.serve (calls ++ [call]) = (c.serve calls).after call := by
  simp [serve]

@[simp] theorem options_serve (c : Cache α) (calls : List (Call ε α)) :
    (c.serve calls).options = c.options := by
  induction calls using List.reverseRecOn with
  | nil => rfl
  | append_singleton calls call ih =>
      rw [serve_concat, ← ih]
      cases call with
      | request p epoch compile => exact options_request _ p epoch compile
      | invalidate => rfl
      | get p => rfl
      | contains p => rfl

/-- What is live after one more call was live before and is kept, or is new. -/
theorem live_concat_iff :
    c.Live (calls ++ [call]) epoch id v ↔
      (c.Live calls epoch id v ∧ call.Keeps epoch) ∨
        ∃ p compile, call = .request p epoch compile ∧ p.id = id ∧
          (c.serve calls).Compiles p epoch compile v := by
  constructor
  · rintro ⟨before, p, compile, later, hcalls, hid, hcompiles, hlater⟩
    induction later using List.reverseRecOn with
    | nil =>
        obtain ⟨rfl, hcall⟩ := List.append_inj' hcalls rfl
        cases hcall
        exact .inr ⟨p, compile, rfl, hid, hcompiles⟩
    | append_singleton later last =>
        rw [← List.cons_append, ← List.append_assoc] at hcalls
        obtain ⟨rfl, hcall⟩ := List.append_inj' hcalls rfl
        cases hcall
        refine .inl ⟨⟨before, p, compile, later, rfl, hid, hcompiles, fun other hother => ?_⟩,
          hlater call (by simp)⟩
        exact hlater other (List.mem_append_left _ hother)
  · rintro (⟨⟨before, p, compile, later, rfl, hid, hcompiles, hlater⟩, hcall⟩ |
      ⟨p, compile, rfl, hid, hcompiles⟩)
    · refine ⟨before, p, compile, later ++ [call], by simp, hid, hcompiles, fun other hother => ?_⟩
      rcases List.mem_append.mp hother with hother | hother
      · exact hlater other hother
      · rw [List.mem_singleton.mp hother]
        exact hcall
    · exact ⟨calls, p, compile, [], rfl, hid, hcompiles, fun _ h => by cases h⟩

theorem lastEpoch_concat (calls : List (Call ε α)) (call : Call ε α) :
    lastEpoch (calls ++ [call]) = call.epoch?.getD (lastEpoch calls) := by
  cases h : call.epoch? with
  | none => simp [lastEpoch, h]
  | some epoch => simp [lastEpoch, h]

theorem epoch_serve (options : Options) (calls : List (Call ε α)) :
    (({ options } : Cache α).serve calls).epoch = lastEpoch calls := by
  induction calls using List.reverseRecOn with
  | nil => rfl
  | append_singleton calls call ih =>
      rw [serve_concat, lastEpoch_concat]
      cases call with
      | request p epoch compile => exact epoch_request _ p epoch compile
      | invalidate => exact ih
      | get p => exact ih
      | contains p => exact ih

/-- Whatever is live is live in the epoch of the cache. -/
theorem Live.epoch_eq (h : c.Live calls epoch id v) : epoch = (c.serve calls).epoch := by
  induction calls using List.reverseRecOn with
  | nil =>
      obtain ⟨before, p, compile, later, hcalls, -⟩ := h
      simp at hcalls
  | append_singleton calls call ih =>
      rw [serve_concat]
      rcases live_concat_iff.mp h with ⟨hlive, hkeeps⟩ | ⟨p, compile, rfl, -, -⟩
      · cases call with
        | request p other compile => exact hkeeps.symm.trans (epoch_request _ p other compile).symm
        | invalidate => exact hkeeps.elim
        | get p => exact ih hlive
        | contains p => exact ih hlive
      · exact (epoch_request _ p epoch compile).symm

/-- A cache that starts empty holds the live entries of its epoch. -/
theorem lookup_serve_eq_some_iff (hempty : c.entries = []) :
    (c.serve calls).entries.lookup id = some v ↔
      c.Live calls (c.serve calls).epoch id v := by
  induction calls using List.reverseRecOn generalizing id v with
  | nil =>
      constructor
      · intro h
        have hnone : c.entries.lookup id = some v := h
        simp [hempty] at hnone
      · rintro ⟨before, p, compile, later, hcalls, -⟩
        simp at hcalls
  | append_singleton calls call ih =>
      rw [serve_concat, live_concat_iff]
      cases call with
      | request p epoch compile =>
          have hkept : epoch = (c.serve calls).epoch ∧
              (c.serve calls).entries.lookup id = some v ↔ c.Live calls epoch id v := by
            rw [ih]
            exact ⟨fun h => h.1 ▸ h.2, fun h => ⟨h.epoch_eq, h.epoch_eq ▸ h⟩⟩
          rw [after, lookup_request_eq_some_iff, epoch_request, hkept]
          simp [Call.Keeps]
      | invalidate => simp [after, invalidate, clear, Call.Keeps]
      | get p => simp [after, ih, Call.Keeps]
      | contains p => simp [after, ih, Call.Keeps]

theorem get?_serve_eq_some_iff (hempty : c.entries = []) :
    (c.serve calls).get? p = some v ↔ ∃ epoch, c.Live calls epoch p.id v := by
  rw [get?, lookup_serve_eq_some_iff hempty]
  exact ⟨fun h => ⟨_, h⟩, fun ⟨_, h⟩ => h.epoch_eq ▸ h⟩

theorem nodup_serve (hempty : c.entries = []) :
    ((c.serve calls).entries.map Prod.fst).Nodup := by
  induction calls using List.reverseRecOn with
  | nil => simp [serve, hempty]
  | append_singleton calls call ih =>
      rw [serve_concat]
      cases call with
      | request p epoch compile => exact nodup_request ih
      | invalidate => exact List.nodup_nil
      | get p => exact ih
      | contains p => exact ih

/-- There are as many entries as identities with a live entry. -/
theorem size_serve (hempty : c.entries = []) :
    (c.serve calls).size = {id | ∃ epoch v, c.Live calls epoch id v}.ncard := by
  have hset : {id | ∃ epoch v, c.Live calls epoch id v} =
      (((c.serve calls).entries.map Prod.fst).toFinset : Set ProgramId) := by
    refine Set.ext fun id => ?_
    change (∃ epoch v, c.Live calls epoch id v) ↔ _
    rw [Finset.mem_coe, List.mem_toFinset, mem_map_fst_iff]
    simp only [lookup_serve_eq_some_iff hempty]
    exact ⟨fun ⟨_, v, h⟩ => ⟨v, h.epoch_eq ▸ h⟩, fun ⟨v, h⟩ => ⟨_, v, h⟩⟩
  rw [hset, Set.ncard_coe_finset, List.toFinset_card_of_nodup (nodup_serve hempty),
    List.length_map, size]

end Run

/-- The cache `c` says and does what the calls since it was made tell it to. -/
structure Follows (options : Options) (calls : List (Call ε α)) (c : Cache α) : Prop where
  /-- What is found is what is live. -/
  get? : ∀ p v, c.get? p = some v ↔
    ∃ epoch, ({ options } : Cache α).Live calls epoch p.id v
  contains : ∀ p, c.contains p ↔ ∃ v epoch, ({ options } : Cache α).Live calls epoch p.id v
  epoch : c.epoch = lastEpoch calls
  size : c.size = {id | ∃ epoch v, ({ options } : Cache α).Live calls epoch id v}.ncard
  /-- The compiler runs only if nothing is live in the epoch of the request. -/
  ran : ∀ p epoch (compile : Sources → Except ε α),
    (c.request p epoch compile).value.1.ranCompiler ↔
      (¬∃ v, ({ options } : Cache α).Live calls epoch p.id v) ∧
        ∃ sources, (p.glsl options).value = .ok sources
  /-- What is live in the epoch of the request is given out, and nothing changes. -/
  kept : ∀ p epoch (compile : Sources → Except ε α) v,
    ({ options } : Cache α).Live calls epoch p.id v →
      (c.request p epoch compile).value = (.kept v, c)
  /-- A failure drops what another epoch left, and does nothing else. -/
  failed : ∀ p epoch (compile : Sources → Except ε α),
    (c.request p epoch compile).value.1.value? = none →
      (c.request p epoch compile).value.2 = if epoch = c.epoch then c else { options, epoch }

/-- After every run, a cache follows the calls of the run. -/
theorem follows_serve (options : Options) (calls : List (Call ε α)) :
    Follows options calls (({ options } : Cache α).serve calls) := by
  have hget : ∀ p v, (({ options } : Cache α).serve calls).get? p = some v ↔
      ∃ epoch, ({ options } : Cache α).Live calls epoch p.id v :=
    fun p v => get?_serve_eq_some_iff rfl
  -- an entry of the cache in its epoch is one that is live in the epoch of a request
  have hlive : ∀ p epoch v, (epoch = (({ options } : Cache α).serve calls).epoch ∧
      (({ options } : Cache α).serve calls).get? p = some v) ↔
        ({ options } : Cache α).Live calls epoch p.id v := by
    intro p epoch v
    rw [Cache.get?, lookup_serve_eq_some_iff rfl]
    exact ⟨fun h => h.1 ▸ h.2, fun h => ⟨h.epoch_eq, h.epoch_eq ▸ h⟩⟩
  refine ⟨hget, fun p => ?_, epoch_serve options calls, size_serve rfl, fun p epoch compile => ?_,
    fun p epoch compile v h => ?_, fun p epoch compile h => ?_⟩
  · rw [Cache.contains, Option.isSome_iff_exists]
    simp only [hget]
  · rw [ranCompiler_request_iff, options_serve]
    simp only [hlive]
  · obtain ⟨hepoch, hget⟩ := (hlive p epoch v).mpr h
    exact request_of_get? hepoch hget
  · rw [request_of_value?_eq_none h, entered, clear, options_serve]

end Cache

end ShaderTree
