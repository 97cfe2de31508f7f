import ShaderTree.Proofs.CacheHistory

/-!
# Lost contexts and an epoch that comes round

The owner of a graphics context counts its losses in an epoch, and after 2 ^ 32
losses the epochs come round.  So two contexts may have the same epoch, and a cache
cannot tell them apart by it.

It does not have to.  Between two requests that follow one another fewer than 2 ^ 32
contexts are lost, so the epoch of a request is that of the request before it only
if no context was lost in between; otherwise the request drops all entries.  By
induction over the run, every entry that a request finds was compiled in the context
of that request.
-/

namespace ShaderTree

open Glsl

/-- Who owns a graphics context and a cache of what was compiled in it. -/
structure Owner (α : Type) where
  epoch : Epoch := .first
  cache : Cache α

namespace Owner

variable {ε α : Type}

/-- One thing that happens to an owner, or that the owner does. -/
inductive Act (ε α : Type) where
  | lose
  | request (p : Program) (compile : Sources → Except ε α)
  | invalidate

namespace Act

def isLoss : Act ε α → Bool
  | .lose => true
  | _ => false

def isRequest : Act ε α → Bool
  | .request _ _ => true
  | _ => false

end Act

def after (o : Owner α) : Act ε α → Owner α
  | .lose => { o with epoch := o.epoch.next }
  | .request p compile => { o with cache := (o.cache.request p o.epoch compile).value.2 }
  | .invalidate => { o with cache := o.cache.invalidate.value }

/-- An owner that starts in the first epoch with an empty cache. -/
def run (options : Options) (acts : List (Act ε α)) : Owner α :=
  acts.foldl after { cache := { options } }

/-- How many contexts have been lost. This number tells contexts apart, other than
the epoch. -/
def losses (acts : List (Act ε α)) : Nat := acts.countP Act.isLoss

/-- From each request to the next fewer contexts are lost than there are epochs. -/
def Paced (acts : List (Act ε α)) : Prop :=
  ∀ before p compile between q compile' later,
    acts = before ++ .request p compile :: (between ++ .request q compile' :: later) →
      (∀ act ∈ between, act.isRequest = false) → losses between < 2 ^ 32

/-- In the context with the number `context` some request compiled `v` for the
identity `id`. -/
def CompiledIn (options : Options) (acts : List (Act ε α)) (context : Nat) (id : ProgramId)
    (v : α) : Prop :=
  ∃ before p compile later, acts = before ++ .request p compile :: later ∧ p.id = id ∧
    (run options before).cache.Compiles p (run options before).epoch compile v ∧
    losses before = context

variable {options : Options} {acts : List (Act ε α)} {act : Act ε α} {context : Nat}
  {id : ProgramId} {v : α}

@[simp] theorem run_concat (options : Options) (acts : List (Act ε α)) (act : Act ε α) :
    run options (acts ++ [act]) = (run options acts).after act := by
  simp [run]

@[simp] theorem losses_append (acts acts' : List (Act ε α)) :
    losses (acts ++ acts') = losses acts + losses acts' := List.countP_append

theorem Paced.of_append {acts' : List (Act ε α)} (h : Paced (acts ++ acts')) : Paced acts := by
  intro before p compile between q compile' later hacts
  exact h before p compile between q compile' (later ++ acts') (by simp [hacts])

theorem CompiledIn.concat (h : CompiledIn options acts context id v) (act : Act ε α) :
    CompiledIn options (acts ++ [act]) context id v := by
  obtain ⟨before, p, compile, later, rfl, hrest⟩ := h
  exact ⟨before, p, compile, later ++ [act], by simp, hrest⟩

/-- The epoch counts the losses, as far as an epoch can. -/
theorem epoch_run (options : Options) (acts : List (Act ε α)) :
    (run options acts).epoch = ⟨UInt32.ofNat (losses acts)⟩ := by
  induction acts using List.reverseRecOn with
  | nil => rfl
  | append_singleton acts act ih =>
      rw [run_concat, losses_append]
      cases act with
      | lose =>
          rw [after, ih, Epoch.next]
          exact congrArg Epoch.mk (UInt32.ofNat_add _ _).symm
      | request p compile => exact ih
      | invalidate => exact ih

/-- Fewer losses than there are epochs lead to the same epoch only if there are
none. -/
theorem eq_zero_of_epoch_eq {m n : Nat} (hn : n < 2 ^ 32)
    (h : UInt32.ofNat (m + n) = UInt32.ofNat m) : n = 0 := by
  have hnat := congrArg UInt32.toNat h
  simp only [UInt32.toNat_ofNat'] at hnat
  omega

/-- The last request of the run brought the cache to its epoch, and the entry was
compiled in the context of that request. -/
def Fresh (options : Options) (acts : List (Act ε α)) (id : ProgramId) (v : α) : Prop :=
  ∃ before p compile between, acts = before ++ .request p compile :: between ∧
    (∀ act ∈ between, act.isRequest = false) ∧
    (run options acts).cache.epoch = (run options before).epoch ∧
    CompiledIn options acts (losses before) id v

section Request

variable {p : Program} {compile : Sources → Except ε α}

/-- An entry that a request leaves was compiled in the context of the request, if
what it found was fresh. -/
theorem compiledIn_of_lookup (hpaced : Paced (acts ++ [.request p compile]))
    (hfresh : (run options acts).cache.entries.lookup id = some v → Fresh options acts id v)
    (h : ((run options acts).after (.request p compile)).cache.entries.lookup id = some v) :
    CompiledIn options (acts ++ [.request p compile]) (losses acts) id v := by
  rcases Cache.lookup_request_eq_some_iff.mp h with ⟨hepoch, hold⟩ | ⟨hid, hcompiles⟩
  · obtain ⟨before, q, compile', between, hacts, hlast, hcache, hcompiled⟩ := hfresh hold
    have hpace : losses between < 2 ^ 32 :=
      hpaced before q compile' between p compile [] (by simp [hacts]) hlast
    have hlosses : losses acts = losses before + losses between := by
      rw [hacts, losses_append]
      rfl
    -- the same epoch again, so nothing was lost since the last request
    rw [hcache, epoch_run, epoch_run, hlosses, Epoch.mk.injEq] at hepoch
    rw [hlosses, eq_zero_of_epoch_eq hpace hepoch]
    exact hcompiled.concat _
  · exact ⟨acts, p, compile, [], rfl, hid, hcompiles, rfl⟩

theorem fresh_of_lookup (hpaced : Paced acts)
    (h : (run options acts).cache.entries.lookup id = some v) : Fresh options acts id v := by
  induction acts using List.reverseRecOn with
  | nil => cases h
  | append_singleton acts act ih =>
      have ih := ih hpaced.of_append
      rw [run_concat] at h
      cases act with
      | lose =>
          obtain ⟨before, p, compile, between, hacts, hlast, hcache, hcompiled⟩ := ih h
          refine ⟨before, p, compile, between ++ [.lose], by simp [hacts], fun act hact => ?_,
            by rw [run_concat]; exact hcache, hcompiled.concat _⟩
          rcases List.mem_append.mp hact with hact | hact
          · exact hlast act hact
          · rw [List.mem_singleton.mp hact]
            rfl
      | request p compile =>
          refine ⟨acts, p, compile, [], rfl, fun _ hact => (by cases hact), ?_,
            compiledIn_of_lookup hpaced ih h⟩
          rw [run_concat]
          exact Cache.epoch_request _ p _ compile
      | invalidate => cases h

end Request

/-- In a paced run, whatever a request gives out was compiled in the context in which
the request is made. -/
theorem compiledIn_of_request (options : Options) (acts : List (Act ε α)) (hpaced : Paced acts)
    (before : List (Act ε α)) (p : Program) (compile : Sources → Except ε α)
    (later : List (Act ε α)) (hacts : acts = before ++ .request p compile :: later) (v : α)
    (h : ((run options before).cache.request p (run options before).epoch
      compile).value.1.value? = some v) :
    CompiledIn options (before ++ [.request p compile]) (losses before) p.id v := by
  have hprefix : Paced (before ++ [.request p compile]) := by
    rw [hacts, List.append_cons] at hpaced
    exact hpaced.of_append
  exact compiledIn_of_lookup hprefix (fresh_of_lookup hprefix.of_append)
    (Cache.lookup_request_of_value? h)

/-- A program that is requested again after a loss, with failures and an invalidation
in between. -/
theorem compiledIn_of_request_again :
    let body : Statement := .assign .out (.vector .vec4 [.float .one])
    let p : Program := ⟨⟨7⟩, "solid", ⟨body⟩, ⟨body⟩⟩
    let compile (tag : Nat) (sources : Sources) : Except String Nat :=
      .ok (tag + sources.fragment.length)
    let before : List (Act String Nat) :=
      [.request p (compile 1000), .lose, .request p fun _ => .error "lost", .lose, .invalidate,
        .request p (compile 2000)]
    let later : List (Act String Nat) := [.lose, .request p (compile 4000)]
    let acts := before ++ .request p (compile 3000) :: later
    Paced acts ∧
      ((run {} before).cache.request p (run {} before).epoch (compile 3000)).value.1.value? =
        some 2162 ∧
      CompiledIn {} (before ++ [.request p (compile 3000)]) (losses before) p.id 2162 ∧
      losses before = 2 := by
  intro body p compile before later acts
  have hpaced : Paced acts := by
    intro start q compile₁ between r compile₂ rest hacts _
    have hlength := congrArg List.length hacts
    have hlosses : losses between ≤ between.length := List.countP_le_length
    simp [acts, before, later] at hlength
    omega
  have hvalue : ((run {} before).cache.request p (run {} before).epoch
      (compile 3000)).value.1.value? = some 2162 := by decide +kernel
  exact ⟨hpaced, hvalue, compiledIn_of_request {} acts hpaced before p (compile 3000) later rfl 2162
    hvalue, rfl⟩

end Owner

end ShaderTree
