import ShaderTree.Proofs.CacheHistory

/-!
# Requests in any order

Several programs are requested in one epoch, with one compiler.  What a request is
answered with is settled before the first of them: `Cache.offer` takes it from the
entry that is live in the epoch, or else from the compiler.  A request puts into the
cache what it was offered itself, so it leaves the offers to all other programs as they
were, and those to its copies too.

Hence the answers do not depend on the order of the requests.  The cache then holds the
same values for the same programs, and the compiler has run once for each program that
was new and could be compiled.
-/

namespace ShaderTree

open Glsl

namespace Answer

variable {ε α : Type}

/-- What a caller gets to see of an answer: a value, or the reason for having none. -/
def result : Answer ε α → Except (Fault ⊕ ε) α
  | .kept value | .compiled value => .ok value
  | .refused fault => .error (.inl fault)
  | .failed error => .error (.inr error)

/-- The value that was compiled for the answer. -/
def fresh? : Answer ε α → Option α
  | .compiled value => some value
  | .kept _ | .refused _ | .failed _ => none

/-- A compiler that ran and did not fail left a fresh value. -/
theorem ranCompiler_eq_of_result {a : Answer ε α} {v : α} (h : a.result = .ok v) :
    a.ranCompiler = a.fresh?.isSome := by
  cases a with
  | kept => rfl
  | compiled => rfl
  | refused => rfl
  | failed => cases h

end Answer

namespace Cache

variable {ε α : Type} {c : Cache α} {p q : Program} {epoch : Epoch}
  {compile : Sources → Except ε α} {id : ProgramId} {v : α} {ps qs : List Program}

/-- What a request in the cache's own epoch would be answered with. -/
def offer (c : Cache α) (compile : Sources → Except ε α) (p : Program) : Except (Fault ⊕ ε) α :=
  match c.get? p with
  | some value => .ok value
  | none =>
    match (p.glsl c.options).value with
    | .error fault => .error (.inl fault)
    | .ok sources =>
      match compile sources with
      | .error error => .error (.inr error)
      | .ok value => .ok value

/-- Requests one program after another in an epoch, and gives the programs with their
answers and the cache in the end. -/
def requestAll (c : Cache α) (epoch : Epoch) (compile : Sources → Except ε α) :
    List Program → List (Program × Answer ε α) × Cache α
  | [] => ([], c)
  | p :: ps =>
    let reply := (c.request p epoch compile).value
    let rest := reply.2.requestAll epoch compile ps
    ((p, reply.1) :: rest.1, rest.2)

/-- The identities for which something was compiled, in the order of the answers. -/
def freshIds (replies : List (Program × Answer ε α)) : List ProgramId :=
  (replies.filter fun reply => reply.2.fresh?.isSome).map (·.1.id)

/-- Among `ps`, programs with the same identity are copies of one another. -/
def Identified (ps : List Program) : Prop := ∀ p ∈ ps, ∀ q ∈ ps, p.id = q.id → p = q

theorem Identified.tail (h : Identified (p :: ps)) : Identified ps := fun q hq q' hq' =>
  h q (List.mem_cons_of_mem p hq) q' (List.mem_cons_of_mem p hq')

theorem Identified.perm (h : Identified ps) (hperm : ps.Perm qs) : Identified qs :=
  fun p hp q hq => h p (hperm.mem_iff.mpr hp) q (hperm.mem_iff.mpr hq)

section Step

variable {r : Answer ε α × Cache α}

theorem offer_of_get? (h : c.get? p = some v) : c.offer compile p = .ok v := by
  simp only [offer, h]

theorem Obtained.result_eq (h : Obtained c p compile r) : r.1.result = c.offer compile p := by
  cases h with
  | kept hget => simp only [offer, hget, Answer.result]
  | refused hget hglsl => simp only [offer, hget, hglsl, Answer.result]
  | failed hget hglsl hcompile => simp only [offer, hget, hglsl, hcompile, Answer.result]
  | compiled hget hglsl hcompile => simp only [offer, hget, hglsl, hcompile, Answer.result]

/-- A request leaves behind what it was offered. -/
theorem Obtained.lookup_eq_some_iff (h : Obtained c p compile r) :
    r.2.entries.lookup id = some v ↔
      c.entries.lookup id = some v ∨ (p.id = id ∧ c.offer compile p = .ok v) := by
  rw [← h.result_eq]
  cases h with
  | kept hget =>
      constructor
      · exact .inl
      · rintro (hlookup | ⟨rfl, hresult⟩)
        · exact hlookup
        · cases hresult
          exact hget
  | refused => simp [Answer.result]
  | failed => simp [Answer.result]
  | @compiled sources w hget =>
      have hnew : p.id = id → c.entries.lookup id = none := fun h => h ▸ hget
      rw [lookup_concat_eq_some_iff]
      simp only [Answer.result, Except.ok.injEq]
      exact or_congr_right ⟨fun h => h.2, fun h => ⟨hnew h.1, h⟩⟩

/-- A request changes no offer, as long as the same identity means the same program. -/
theorem Obtained.offer_eq (h : Obtained c p compile r) (hclone : p.id = q.id → p = q) :
    r.2.offer compile q = c.offer compile q := by
  have hoptions : r.2.options = c.options := by cases h <;> rfl
  cases hget : r.2.get? q with
  | some v =>
      rw [offer_of_get? hget]
      rcases h.lookup_eq_some_iff.mp hget with hlookup | ⟨hid, hoffer⟩
      · exact (offer_of_get? hlookup).symm
      · rw [← hclone hid, hoffer]
  | none =>
      have hbefore : c.get? q = none := by
        refine Option.eq_none_iff_forall_ne_some.mpr fun v hv => ?_
        have hkept := h.lookup_eq_some_iff.mpr (.inl hv)
        rw [get?, hkept] at hget
        cases hget
      simp only [offer, hget, hbefore, hoptions]

/-- Only a program without an entry gets a fresh one, and its identity is added at the
end. -/
theorem Obtained.map_fst_eq (h : Obtained c p compile r) :
    r.2.entries.map Prod.fst = c.entries.map Prod.fst ++ freshIds [(p, r.1)] := by
  cases h with
  | kept => exact (List.append_nil _).symm
  | refused => exact (List.append_nil _).symm
  | failed => exact (List.append_nil _).symm
  | compiled => exact List.map_append

theorem Obtained.lookup_of_mem_freshIds (h : Obtained c p compile r)
    (hid : id ∈ freshIds [(p, r.1)]) :
    c.entries.lookup id = none ∧ ∃ v, r.2.entries.lookup id = some v := by
  cases h with
  | kept => cases hid
  | refused => cases hid
  | failed => cases hid
  | @compiled sources v hget =>
      have hp : id = p.id := List.mem_singleton.mp hid
      rw [hp]
      exact ⟨hget, v, lookup_concat_eq_some_iff.mpr (.inr ⟨hget, rfl, rfl⟩)⟩

end Step

section Run

theorem freshIds_cons (reply : Program × Answer ε α) (replies : List (Program × Answer ε α)) :
    freshIds (reply :: replies) = freshIds [reply] ++ freshIds replies := by
  rw [← List.singleton_append, freshIds, List.filter_append, List.map_append]
  rfl

theorem obtained_of_epoch_eq (hepoch : c.epoch = epoch) (p : Program)
    (compile : Sources → Except ε α) : Obtained c p compile (c.request p epoch compile).value := by
  have hentered : c.entered epoch = c := if_pos hepoch.symm
  have hobtained := obtained_request c p epoch compile
  rwa [hentered] at hobtained

theorem epoch_requestAll (hepoch : c.epoch = epoch) (compile : Sources → Except ε α)
    (ps : List Program) : (c.requestAll epoch compile ps).2.epoch = epoch := by
  induction ps generalizing c with
  | nil => exact hepoch
  | cons p ps ih => exact ih (epoch_request c p epoch compile)

/-- Every request is answered with the offer that stood before the first of them. -/
theorem results_requestAll (hepoch : c.epoch = epoch) (hids : Identified ps) :
    (c.requestAll epoch compile ps).1.map (fun reply => (reply.1, reply.2.result)) =
      ps.map fun p => (p, c.offer compile p) := by
  induction ps generalizing c with
  | nil => rfl
  | cons p ps ih =>
      have hobtained := obtained_of_epoch_eq hepoch p compile
      have hrest := ih (epoch_request c p epoch compile) hids.tail
      have hoffers : ∀ q ∈ ps, (c.request p epoch compile).value.2.offer compile q =
          c.offer compile q := fun q hq =>
        hobtained.offer_eq (hids p List.mem_cons_self q (List.mem_cons_of_mem p hq))
      rw [requestAll, List.map_cons, List.map_cons, hrest, hobtained.result_eq]
      refine congrArg _ (List.map_congr_left fun q hq => ?_)
      rw [hoffers q hq]

theorem mem_requestAll (hepoch : c.epoch = epoch) (hids : Identified ps)
    {reply : Program × Answer ε α}
    (hreply : reply ∈ (c.requestAll epoch compile ps).1) :
    reply.1 ∈ ps ∧ reply.2.result = c.offer compile reply.1 := by
  have hmem := List.mem_map_of_mem (f := fun reply => (reply.1, reply.2.result)) hreply
  rw [results_requestAll hepoch hids] at hmem
  obtain ⟨p, hp, hpair⟩ := List.mem_map.mp hmem
  obtain ⟨rfl, hresult⟩ := Prod.mk.inj hpair
  exact ⟨hp, hresult.symm⟩

/-- In the end the cache holds what it held before and what was offered. -/
theorem lookup_requestAll_eq_some_iff (hepoch : c.epoch = epoch) (hids : Identified ps) :
    (c.requestAll epoch compile ps).2.entries.lookup id = some v ↔
      c.entries.lookup id = some v ∨ ∃ p ∈ ps, p.id = id ∧ c.offer compile p = .ok v := by
  induction ps generalizing c with
  | nil => simp [requestAll]
  | cons p ps ih =>
      have hobtained := obtained_of_epoch_eq hepoch p compile
      have hrest := ih (epoch_request c p epoch compile) hids.tail
      have hoffers : (∃ q ∈ ps, q.id = id ∧
          (c.request p epoch compile).value.2.offer compile q = .ok v) ↔
            ∃ q ∈ ps, q.id = id ∧ c.offer compile q = .ok v := by
        refine exists_congr fun q => and_congr_right fun hq => ?_
        rw [hobtained.offer_eq (hids p List.mem_cons_self q (List.mem_cons_of_mem p hq))]
      rw [requestAll, hrest, hoffers, hobtained.lookup_eq_some_iff, or_assoc,
        List.exists_mem_cons_iff]

theorem map_fst_requestAll (hepoch : c.epoch = epoch) (compile : Sources → Except ε α)
    (ps : List Program) :
    (c.requestAll epoch compile ps).2.entries.map Prod.fst =
      c.entries.map Prod.fst ++ freshIds (c.requestAll epoch compile ps).1 := by
  induction ps generalizing c with
  | nil => exact (List.append_nil _).symm
  | cons p ps ih =>
      have hobtained := obtained_of_epoch_eq hepoch p compile
      rw [requestAll, ih (epoch_request c p epoch compile), hobtained.map_fst_eq,
        List.append_assoc, ← freshIds_cons]

theorem lookup_of_mem_freshIds (hepoch : c.epoch = epoch)
    (hid : id ∈ freshIds (c.requestAll epoch compile ps).1) : c.entries.lookup id = none := by
  induction ps generalizing c with
  | nil => cases hid
  | cons p ps ih =>
      have hobtained := obtained_of_epoch_eq hepoch p compile
      rw [requestAll, freshIds_cons, List.mem_append] at hid
      rcases hid with hid | hid
      · exact (hobtained.lookup_of_mem_freshIds hid).1
      · have hafter := ih (epoch_request c p epoch compile) hid
        refine Option.eq_none_iff_forall_ne_some.mpr fun v hv => ?_
        rw [hobtained.lookup_eq_some_iff.mpr (.inl hv)] at hafter
        cases hafter

/-- Nothing is compiled twice and kept. -/
theorem nodup_freshIds (hepoch : c.epoch = epoch) (compile : Sources → Except ε α)
    (ps : List Program) : (freshIds (c.requestAll epoch compile ps).1).Nodup := by
  induction ps generalizing c with
  | nil => exact List.nodup_nil
  | cons p ps ih =>
      have hobtained := obtained_of_epoch_eq hepoch p compile
      have hafter := epoch_request c p epoch compile
      rw [requestAll, freshIds_cons]
      refine List.nodup_append.mpr ⟨?_, ih hafter, ?_⟩
      · exact (List.filter_sublist.map _).nodup (List.nodup_singleton p.id)
      · rintro id hid _ hrest rfl
        obtain ⟨-, v, hv⟩ := hobtained.lookup_of_mem_freshIds hid
        rw [lookup_of_mem_freshIds hafter hrest] at hv
        cases hv

/-- Something is compiled and kept for the programs without an entry that can be
compiled. -/
theorem mem_freshIds_iff (hepoch : c.epoch = epoch) (hids : Identified ps) :
    id ∈ freshIds (c.requestAll epoch compile ps).1 ↔
      c.entries.lookup id = none ∧ ∃ p ∈ ps, p.id = id ∧ ∃ v, c.offer compile p = .ok v := by
  have hkeys : id ∈ (c.requestAll epoch compile ps).2.entries.map Prod.fst ↔
      id ∈ c.entries.map Prod.fst ∨ id ∈ freshIds (c.requestAll epoch compile ps).1 := by
    rw [map_fst_requestAll hepoch, List.mem_append]
  simp only [mem_map_fst_iff, lookup_requestAll_eq_some_iff hepoch hids] at hkeys
  constructor
  · intro hid
    have hnone := lookup_of_mem_freshIds hepoch hid
    obtain ⟨v, hv | ⟨p, hp, hpid, hoffer⟩⟩ := hkeys.mpr (.inr hid)
    · rw [hnone] at hv
      cases hv
    · exact ⟨hnone, p, hp, hpid, v, hoffer⟩
  · rintro ⟨hnone, p, hp, hpid, v, hoffer⟩
    rcases hkeys.mp ⟨v, .inr ⟨p, hp, hpid, hoffer⟩⟩ with ⟨w, hw⟩ | hid
    · rw [hnone] at hw
      cases hw
    · exact hid

theorem perm_freshIds (hepoch : c.epoch = epoch) (hids : Identified ps) (hperm : ps.Perm qs) :
    (freshIds (c.requestAll epoch compile ps).1).Perm
      (freshIds (c.requestAll epoch compile qs).1) := by
  refine (List.perm_ext_iff_of_nodup (nodup_freshIds hepoch compile ps)
    (nodup_freshIds hepoch compile qs)).mpr fun id => ?_
  rw [mem_freshIds_iff hepoch hids, mem_freshIds_iff hepoch (hids.perm hperm)]
  simp only [hperm.mem_iff]

theorem size_requestAll (hepoch : c.epoch = epoch) (compile : Sources → Except ε α)
    (ps : List Program) :
    (c.requestAll epoch compile ps).2.size =
      c.size + (freshIds (c.requestAll epoch compile ps).1).length := by
  have hlength := congrArg List.length (map_fst_requestAll hepoch compile ps)
  simpa [size] using hlength

/-- The runs of the compiler that are made for one identity. -/
def compilerRuns (replies : List (Program × Answer ε α)) (id : ProgramId) : Nat :=
  replies.countP fun reply => reply.1.id = id && reply.2.ranCompiler

theorem compilerRuns_requestAll (hepoch : c.epoch = epoch) (hids : Identified ps) (hp : p ∈ ps)
    (hget : c.get? p = none) (hoffer : c.offer compile p = .ok v) :
    compilerRuns (c.requestAll epoch compile ps).1 p.id = 1 := by
  have hfresh : p.id ∈ freshIds (c.requestAll epoch compile ps).1 :=
    (mem_freshIds_iff hepoch hids).mpr ⟨hget, p, hp, rfl, v, hoffer⟩
  rw [← List.count_eq_one_of_mem (nodup_freshIds hepoch compile ps) hfresh, compilerRuns, freshIds,
    List.count_eq_countP, List.countP_map, List.countP_filter]
  refine List.countP_congr fun reply hreply => ?_
  obtain ⟨hmem, hresult⟩ := mem_requestAll hepoch hids hreply
  by_cases hid : reply.1.id = p.id
  · rw [hids _ hmem p hp hid, hoffer] at hresult
    simp [hid, Answer.ranCompiler_eq_of_result hresult]
  · simp [hid]

/-- The first request brings the cache to its epoch, so it may as well be there. -/
theorem requestAll_entered (c : Cache α) (epoch : Epoch) (compile : Sources → Except ε α)
    (hps : ps ≠ []) :
    (c.entered epoch).requestAll epoch compile ps = c.requestAll epoch compile ps := by
  have hentered : (c.entered epoch).entered epoch = c.entered epoch :=
    if_pos (epoch_entered c epoch).symm
  have hrequest : ∀ p, ((c.entered epoch).request p epoch compile).value =
      (c.request p epoch compile).value := by
    intro p
    rw [request, request, Logged.value_bind, Logged.value_bind, value_enter, value_enter, hentered]
  cases ps with
  | nil => exact absurd rfl hps
  | cons p ps => rw [requestAll, requestAll, hrequest]

end Run

/-- The requests for `ps` and those for `qs` come to the same. -/
structure SameOutcome (c : Cache α) (epoch : Epoch) (compile : Sources → Except ε α)
    (ps qs : List Program) : Prop where
  /-- Each request is answered, with what was offered before the first of them. -/
  answered : (c.requestAll epoch compile qs).1.map (fun reply => (reply.1, reply.2.result)) =
    qs.map fun p => (p, (c.entered epoch).offer compile p)
  result : ∀ x ∈ (c.requestAll epoch compile ps).1, ∀ y ∈ (c.requestAll epoch compile qs).1,
    x.1.id = y.1.id → x.2.result = y.2.result
  epoch_eq : (c.requestAll epoch compile ps).2.epoch = (c.requestAll epoch compile qs).2.epoch
  size_eq : (c.requestAll epoch compile ps).2.size = (c.requestAll epoch compile qs).2.size
  get?_eq : ∀ p, (c.requestAll epoch compile ps).2.get? p = (c.requestAll epoch compile qs).2.get? p
  /-- The compiler runs once for a program that is new in the epoch and can be compiled. -/
  once : ∀ p ∈ qs, (¬∃ v, epoch = c.epoch ∧ c.get? p = some v) →
    ∀ sources v, (p.glsl c.options).value = .ok sources → compile sources = .ok v →
      compilerRuns (c.requestAll epoch compile qs).1 p.id = 1

/-- Requests in one epoch come to the same in any order. -/
theorem sameOutcome_of_perm (c : Cache α) (epoch : Epoch) (compile : Sources → Except ε α)
    (ps qs : List Program) (hids : Identified ps) (hperm : ps.Perm qs) :
    c.SameOutcome epoch compile ps qs := by
  by_cases hps : ps = []
  · subst hps
    obtain rfl := hperm.nil_eq
    exact ⟨rfl, List.forall_mem_nil _, rfl, rfl, fun _ => rfl, List.forall_mem_nil _⟩
  · have hqs : qs ≠ [] := fun h => hps (List.perm_nil.mp (h ▸ hperm))
    have hps' := requestAll_entered c epoch compile hps
    have hqs' := requestAll_entered c epoch compile hqs
    have hepoch := epoch_entered c epoch
    have hids' := hids.perm hperm
    refine ⟨?_, fun x hx y hy hid => ?_, ?_, ?_, fun p => Option.ext fun v => ?_,
      fun p hp hnew sources v hglsl hcompile => ?_⟩
    · rw [← hqs']
      exact results_requestAll hepoch hids'
    · rw [← hps'] at hx
      rw [← hqs'] at hy
      obtain ⟨hxmem, hxresult⟩ := mem_requestAll hepoch hids hx
      obtain ⟨hymem, hyresult⟩ := mem_requestAll hepoch hids' hy
      rw [hxresult, hyresult, hids _ hxmem _ (hperm.mem_iff.mpr hymem) hid]
    · rw [← hps', ← hqs', epoch_requestAll hepoch, epoch_requestAll hepoch]
    · rw [← hps', ← hqs', size_requestAll hepoch, size_requestAll hepoch,
        (perm_freshIds hepoch hids hperm).length_eq]
    · rw [← hps', ← hqs', get?, get?, lookup_requestAll_eq_some_iff hepoch hids,
        lookup_requestAll_eq_some_iff hepoch hids']
      simp only [hperm.mem_iff]
    · have hget : (c.entered epoch).get? p = none := by
        refine Option.eq_none_iff_forall_ne_some.mpr fun w hw => ?_
        exact hnew ⟨w, lookup_entered_eq_some_iff.mp hw⟩
      have hoffer : (c.entered epoch).offer compile p = .ok v := by
        simp only [offer, hget, options_entered, hglsl, hcompile]
      rw [← hqs']
      exact compilerRuns_requestAll hepoch hids' hp hget hoffer

/-- Seven requests for four programs in two orders, in the epoch of an entry that was
made with another compiler. One program has no sources, and one is refused by the
compiler each time. -/
theorem sameOutcome_of_perm_mixed :
    let body : Statement := .assign .out (.vector .vec4 [.float .one])
    let broken : Statement := .assign .out (.swizzle .out "xyzt")
    let long : Statement := .block [body, body]
    let program (k : UInt64) : Program :=
      ⟨⟨k⟩, "solid", ⟨if k = 1 then broken else if k = 3 then long else body⟩, ⟨body⟩⟩
    let compile (sources : Sources) : Except String Nat :=
      if sources.vertex.length < 180 then .ok sources.vertex.length else .error "too long"
    let c : Cache Nat := { options := {}, epoch := ⟨7⟩, entries := [(⟨0⟩, 5)] }
    let ps := [2, 1, 0, 2, 3, 3, 1].map program
    let qs := [3, 1, 2, 3, 0, 1, 2].map program
    Identified ps ∧ ps.Perm qs ∧ c.SameOutcome ⟨7⟩ compile ps qs ∧
      (c.requestAll ⟨7⟩ compile qs).2.entries = [(⟨0⟩, 5), (⟨2⟩, 161)] ∧
      [0, 1, 2, 3].map (fun k => compilerRuns (c.requestAll ⟨7⟩ compile qs).1 ⟨k⟩) =
        [0, 0, 1, 2] := by
  intro body broken long program compile c ps qs
  have hids : Identified ps := by
    intro p hp q hq hid
    obtain ⟨k, -, rfl⟩ := List.mem_map.mp hp
    obtain ⟨k', -, rfl⟩ := List.mem_map.mp hq
    have hk : k = k' := congrArg ProgramId.value hid
    rw [hk]
  have hperm : ps.Perm qs := List.Perm.map program (by decide)
  exact ⟨hids, hperm, sameOutcome_of_perm c ⟨7⟩ compile ps qs hids hperm, by decide +kernel⟩

end Cache

end ShaderTree
