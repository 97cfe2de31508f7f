import ShaderTree.Proofs.Visits

/-!
# Walks that are stopped

A recording walk notes the visits of the kinds it was asked for, and may stop at a
note.  Which visits are noted changes nothing about the walk: the notes are the
chosen ones among all visits, in their order.  A walk that stops has made the notes
of the walk that does not, up to the one at which it stopped, and makes no more.

`Operand.leaves` and `Statement.leaves` read the variables and literals of a tree from
left to right.  They are the notes of a walk that was asked for leaves only.
-/

namespace ShaderTree

namespace Operand

mutual

/-- The variables and literals of an operand, from left to right. -/
def leaves : Operand → List Visit
  | .var v => [.ofVariable v]
  | .int n => [.int n]
  | .float x => [.float x]
  | .bool b => [.bool b]
  | .binop _ left right => left.leaves ++ right.leaves
  | .vector _ parts => leavesAll parts
  | .swizzle source _ => source.leaves
  | .call _ args => leavesAll args

/-- The variables and literals of several operands. -/
def leavesAll : List Operand → List Visit
  | [] => []
  | o :: rest => o.leaves ++ leavesAll rest

end

mutual

theorem filter_isLeaf_visits : ∀ o : Operand, o.visits.filter Visit.isLeaf = o.leaves
  | .var v => by cases v <;> rfl
  | .int n => rfl
  | .float x => rfl
  | .bool b => rfl
  | .binop op left right => by
      have hleft := filter_isLeaf_visits left
      have hright := filter_isLeaf_visits right
      simp [visits, leaves, Visit.isLeaf, hleft, hright]
  | .vector ty parts => by
      have hparts := filter_isLeaf_visitsAll parts
      simp [visits, leaves, Visit.isLeaf, hparts]
  | .swizzle source mask => by
      have hsource := filter_isLeaf_visits source
      simp [visits, leaves, Visit.isLeaf, hsource]
  | .call f args => by
      have hargs := filter_isLeaf_visitsAll args
      simp [visits, leaves, Visit.isLeaf, hargs]

theorem filter_isLeaf_visitsAll : ∀ os : List Operand,
    (visitsAll os).filter Visit.isLeaf = leavesAll os
  | [] => rfl
  | o :: rest => by
      have ho := filter_isLeaf_visits o
      have hrest := filter_isLeaf_visitsAll rest
      rw [visitsAll, List.filter_append, ho, hrest, leavesAll]

end

end Operand

namespace Statement

mutual

/-- The variables and literals of a statement, from left to right. -/
def leaves : Statement → List Visit
  | .block body => leavesAll body
  | .assign target source => target.leaves ++ source.leaves
  | .ifThen condition body => condition.leaves ++ body.leaves
  | .ifThenElse condition body otherwise => condition.leaves ++ body.leaves ++ otherwise.leaves

/-- The variables and literals of several statements. -/
def leavesAll : List Statement → List Visit
  | [] => []
  | s :: rest => s.leaves ++ leavesAll rest

end

mutual

/-- The leaves among the visits of a walk are the leaves of the tree. -/
theorem filter_isLeaf_visits : ∀ s : Statement, s.visits.filter Visit.isLeaf = s.leaves
  | .block body => by
      have hbody := filter_isLeaf_visitsAll body
      simp [visits, leaves, Visit.isLeaf, hbody]
  | .assign target source => by
      simp [visits, leaves, Visit.isLeaf, Operand.filter_isLeaf_visits]
  | .ifThen condition body => by
      have hbody := filter_isLeaf_visits body
      simp [visits, leaves, Visit.isLeaf, Operand.filter_isLeaf_visits, hbody]
  | .ifThenElse condition body otherwise => by
      have hbody := filter_isLeaf_visits body
      have hotherwise := filter_isLeaf_visits otherwise
      simp [visits, leaves, Visit.isLeaf, Operand.filter_isLeaf_visits, hbody, hotherwise]

theorem filter_isLeaf_visitsAll : ∀ body : List Statement,
    (visitsAll body).filter Visit.isLeaf = leavesAll body
  | [] => rfl
  | s :: rest => by
      have hs := filter_isLeaf_visits s
      have hrest := filter_isLeaf_visitsAll rest
      rw [visitsAll, List.filter_append, hs, hrest, leavesAll]

end

end Statement

namespace Recording

variable {chosen : Visit → Bool} {stop : Option Nat} {v : Visit} {vs ws : List Visit}
  {notes notes' : Array Visit} {walk rest : RecordM Unit}

section Monad

theorem run_bind_of_ok (h : walk.run notes = (.ok (), notes')) :
    (walk >>= fun _ => rest).run notes = rest.run notes' := by
  rw [ExceptT.run_bind]
  simp only [bind, StateT.bind, h]

/-- Nothing is done after a stop. -/
theorem run_bind_of_error (h : walk.run notes = (.error v, notes')) :
    (walk >>= fun _ => rest).run notes = (.error v, notes') := by
  rw [ExceptT.run_bind]
  simp only [bind, StateT.bind, h]
  rfl

theorem ofWalk_of_ok (h : walk.run #[] = (.ok (), notes)) : ofWalk walk = ⟨notes.toList, none⟩ := by
  rw [ofWalk, h]

theorem ofWalk_of_error (h : walk.run #[] = (.error v, notes)) :
    ofWalk walk = ⟨notes.toList, some v⟩ := by
  rw [ofWalk, h]

end Monad

theorem note_of_not_chosen (h : chosen v = false) : note chosen stop v = pure () := by
  simp [note, h]

/-- A chosen visit is noted, and the walk stops there or goes on. -/
theorem run_note (h : chosen v) (notes : Array Visit) :
    (note chosen stop v).run notes =
      if stop = some (notes.size + 1) then (.error v, notes.push v)
      else (.ok (), notes.push v) := by
  rw [note, if_pos h]
  change (ite (stop = some (notes.push v).size) (throw v) (pure ()) : RecordM Unit).run
    (notes.push v) = _
  rw [Array.size_push]
  split <;> rfl

/-- Visits that are not chosen can be left out. -/
theorem forM_note_filter (chosen : Visit → Bool) (stop : Option Nat) (vs : List Visit) :
    forM vs (note chosen stop) = forM (vs.filter chosen) (note chosen stop) := by
  induction vs with
  | nil => rfl
  | cons v vs ih =>
      by_cases hv : chosen v
      · rw [List.filter_cons_of_pos hv, List.forM_cons, List.forM_cons, ih]
      · rw [List.filter_cons_of_neg hv, List.forM_cons,
          note_of_not_chosen (Bool.eq_false_iff.mpr hv), pure_bind, ih]

/-- Chosen visits are noted one after another as long as none of them brings the
notes to the number at which the walk stops. -/
theorem run_forM_note (hchosen : ∀ w ∈ ws, chosen w)
    (hstop : ∀ n, notes.size < n → n ≤ notes.size + ws.length → stop ≠ some n) :
    (forM ws (note chosen stop)).run notes = (.ok (), notes ++ ws.toArray) := by
  induction ws generalizing notes with
  | nil =>
      rw [List.forM_nil, List.append_toArray, List.append_nil]
      rfl
  | cons w ws ih =>
      have hnote : (note chosen stop w).run notes = (.ok (), notes.push w) := by
        rw [run_note (hchosen w List.mem_cons_self), if_neg]
        exact hstop _ (by omega) (by simp only [List.length_cons]; omega)
      rw [List.forM_cons, run_bind_of_ok hnote, ih]
      · simp
      · exact fun x hx => hchosen x (List.mem_cons_of_mem _ hx)
      · intro n hlt hle
        rw [Array.size_push] at hlt hle
        exact hstop n (by omega) (by simp only [List.length_cons]; omega)

/-- A walk that stops at a note leaves out whatever comes after it. -/
theorem run_forM_note_stop (hchosen : ∀ w ∈ ws ++ [v], chosen w) (later : List Visit) :
    (forM (ws ++ v :: later) (note chosen (some (ws.length + 1)))).run #[] =
      (.error v, (ws ++ [v]).toArray) := by
  have hbefore : (forM ws (note chosen (some (ws.length + 1)))).run #[] =
      (.ok (), #[] ++ ws.toArray) := by
    refine run_forM_note (fun w hw => hchosen w (List.mem_append_left _ hw)) fun n _ hle => ?_
    simp only [List.size_toArray, List.length_nil] at hle
    simp only [ne_eq, Option.some.injEq]
    omega
  rw [List.forM_append, run_bind_of_ok hbefore, List.forM_cons]
  apply run_bind_of_error
  rw [run_note (hchosen v (by simp)), if_pos (by simp)]
  simp

/-- Recordings of a walk with the visits `vs`, for every choice of what is noted and
every place to stop. -/
structure CutsShort (record : (Visit → Bool) → Option Nat → Recording) (vs leaves : List Visit) :
    Prop where
  /-- All visits are met if nothing stops the walk. -/
  every : record (fun _ => true) none = ⟨vs, none⟩
  /-- What is not noted does not disturb what is. -/
  whole : ∀ chosen, record chosen none = ⟨vs.filter chosen, none⟩
  /-- The walk that stops at a note has made this note and those before it. -/
  stopped : ∀ chosen n v, (vs.filter chosen)[n]? = some v →
    record chosen (some (n + 1)) = ⟨(vs.filter chosen).take (n + 1), some v⟩
  /-- The walk does not stop if there are not as many notes. -/
  passed : ∀ chosen n, (vs.filter chosen).length < n →
    record chosen (some n) = ⟨vs.filter chosen, none⟩
  /-- The leaves are met once each, from left to right. -/
  leaves : vs.filter Visit.isLeaf = leaves

theorem ofWalk_forM_note (hstop : ∀ n, n ≤ (vs.filter chosen).length → stop ≠ some n) :
    ofWalk (forM vs (note chosen stop)) = ⟨vs.filter chosen, none⟩ := by
  have hrun : (forM (vs.filter chosen) (note chosen stop)).run #[] =
      (.ok (), #[] ++ (vs.filter chosen).toArray) := by
    refine run_forM_note (fun w hw => (List.mem_filter.mp hw).2) fun n _ hle => hstop n ?_
    simpa using hle
  rw [forM_note_filter, ofWalk_of_ok hrun]
  simp

theorem ofWalk_forM_note_stop {n : Nat} (hv : (vs.filter chosen)[n]? = some v) :
    ofWalk (forM vs (note chosen (some (n + 1)))) = ⟨(vs.filter chosen).take (n + 1), some v⟩ := by
  obtain ⟨hn, hget⟩ := List.getElem?_eq_some_iff.mp hv
  have hlength : ((vs.filter chosen).take n).length = n := by
    rw [List.length_take]
    omega
  have htake : (vs.filter chosen).take (n + 1) = (vs.filter chosen).take n ++ [v] := by
    rw [List.take_add_one, hv, Option.toList_some]
  have hsplit : vs.filter chosen =
      (vs.filter chosen).take n ++ v :: (vs.filter chosen).drop (n + 1) := by
    rw [← hget, ← List.drop_eq_getElem_cons hn, List.take_append_drop]
  have hchosen : ∀ w ∈ (vs.filter chosen).take n ++ [v], chosen w := fun w hw =>
    (List.mem_filter.mp (List.mem_of_mem_take (htake ▸ hw))).2
  have hrun := run_forM_note_stop hchosen ((vs.filter chosen).drop (n + 1))
  rw [← hsplit, hlength, ← htake] at hrun
  rw [forM_note_filter, ofWalk_of_error hrun]

theorem cutsShort_ofWalk (vs : List Visit) :
    CutsShort (fun chosen stop => ofWalk (forM vs (note chosen stop))) vs
      (vs.filter Visit.isLeaf) := by
  have hwhole : ∀ chosen, ofWalk (forM vs (note chosen none)) = ⟨vs.filter chosen, none⟩ :=
    fun chosen => ofWalk_forM_note fun n _ => by simp
  refine ⟨?_, hwhole, fun chosen n v => ofWalk_forM_note_stop, fun chosen n hn => ?_, rfl⟩
  · rw [hwhole, List.filter_eq_self.mpr fun _ _ => rfl]
  · refine ofWalk_forM_note fun m hm => ?_
    simp only [ne_eq, Option.some.injEq]
    omega

/-- A walk over a tree is only ever cut short, whatever it notes. -/
theorem cutsShort_record :
    (∀ s : Statement, CutsShort (fun chosen stop => s.record chosen stop) s.visits s.leaves) ∧
      ∀ o : Operand, CutsShort (fun chosen stop => o.record chosen stop) o.visits o.leaves := by
  constructor
  · intro s
    have hrecord := cutsShort_ofWalk s.visits
    simp only [← List.forM_eq_forM, ← s.walk_eq_forM, s.filter_isLeaf_visits] at hrecord
    exact hrecord
  · intro o
    have hrecord := cutsShort_ofWalk o.visits
    simp only [← List.forM_eq_forM, ← o.walk_eq_forM, o.filter_isLeaf_visits] at hrecord
    exact hrecord

end Recording

end ShaderTree
