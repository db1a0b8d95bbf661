/-
This file counts the markers of calls in the record. A call adds one marker for its
closure when its body begins. When the body has ended one marker is taken back, if
there is still one whose arguments have the structure of those of the call, and
none otherwise. No other change of the record touches a marker.
-/

import CallTyping.Proofs.Excursion

namespace CallTyping

/-! ### Replacing an entry -/

/-- To replace a running entry by finished ones takes one marker away. -/
theorem countP_replaceFirst {wanted : Specialization → Bool}
    {change : Specialization → List Specialization}
    (running : ∀ entry, wanted entry = true → entry.isRunning = true)
    (finished : ∀ entry, (change entry).countP Specialization.isRunning = 0)
    (entries : List Specialization) :
    (Cache.replaceFirst wanted change entries).countP Specialization.isRunning +
        (if entries.any wanted then 1 else 0) =
      entries.countP Specialization.isRunning := by
  induction entries with
  | nil => rfl
  | cons entry rest inductionHypothesis =>
    rw [Cache.replaceFirst]
    by_cases found : wanted entry = true
    · rw [if_pos found, List.countP_append, finished, List.countP_cons_of_pos (running entry found),
        List.any_cons, found, Bool.true_or, if_pos rfl, Nat.zero_add]
    · rw [if_neg found, List.any_cons, Bool.eq_false_iff.mpr found, Bool.false_or,
        List.countP_cons, List.countP_cons]
      omega

namespace Cache

/-- The number of bodies of a closure that are recorded as being typed. -/
def pending (cache : Cache) (id : ClosureId) : Nat :=
  (cache.of id).countP Specialization.isRunning

/-- Whether there is a marker for such a call. -/
def holdsMarker (cache : Cache) (heap : Heap) (id : ClosureId) (args : List Ty) : Bool :=
  (cache.of id).any (isMarker heap args)

/-- The markers of a closure that the call of another one sets. -/
def set (id other : ClosureId) : Nat := if other = id then 1 else 0

/-- The markers of a closure that are taken away at the end of such a call of another one. -/
def taken (cache : Cache) (heap : Heap) (id : ClosureId) (args : List Ty) (other : ClosureId) :
    Nat :=
  if cache.holdsMarker heap id args then set id other else 0

theorem taken_le_set (cache : Cache) (heap : Heap) (id other : ClosureId) (args : List Ty) :
    cache.taken heap id args other ≤ set id other := by
  unfold taken
  split
  · exact Nat.le_refl _
  · exact Nat.zero_le _

theorem pending_eq_zero {cache : Cache} {id : ClosureId} :
    cache.pending id = 0 ↔ ∀ entry ∈ cache.of id, entry.isRunning = false := by
  simp [pending, List.countP_eq_zero]

theorem of_insert (cache : Cache) (closure id : ClosureId) (entries : List Specialization) :
    Cache.of ⟨cache.entries.insert closure entries⟩ id =
      if id = closure then entries else cache.of id := by
  unfold Cache.of
  by_cases same : id = closure
  · rw [if_pos same, same, OrderedMap.get?_insert_self, Option.getD_some]
  · rw [if_neg same, OrderedMap.get?_insert_other _ _ _ _ same]

theorem of_modify (cache : Cache) (closure id : ClosureId)
    {change : List Specialization → List Specialization} (empty : change [] = []) :
    Cache.of ⟨cache.entries.modify closure change⟩ id =
      if id = closure then change (cache.of id) else cache.of id := by
  unfold OrderedMap.modify
  cases known : cache.entries.get? closure with
  | none =>
    by_cases same : id = closure
    · rw [if_pos same, Cache.of, same, known, Option.getD_none, empty]
    · rw [if_neg same]
  | some entries =>
    rw [of_insert]
    by_cases same : id = closure
    · rw [if_pos same, if_pos same, Cache.of, same, known, Option.getD_some]
    · rw [if_neg same, if_neg same]

/-! ### Calls -/

theorem pending_mark (cache : Cache) (closure id : ClosureId) (args : List Ty) :
    (cache.mark closure args).pending id = cache.pending id + set closure id := by
  unfold pending mark set
  rw [of_insert]
  by_cases same : id = closure
  · rw [if_pos same, if_pos same, same, List.countP_append]
    rfl
  · rw [if_neg same, if_neg same]
    rfl

theorem holdsMarker_mark (cache : Cache) (heap : Heap) (id : ClosureId) (args : List Ty) :
    (cache.mark id args).holdsMarker heap id args = true := by
  unfold holdsMarker mark
  rw [of_insert, if_pos rfl, List.any_append]
  simp [isMarker, Specialization.isRunning, Heap.sameArguments_self]

/-- Whatever replaces the marker of a call, there is one marker less if there was one. -/
theorem pending_replaceFirst (cache : Cache) (heap : Heap) (closure id : ClosureId)
    (args : List Ty) {change : Specialization → List Specialization}
    (finished : ∀ entry, (change entry).countP Specialization.isRunning = 0) :
    Cache.pending
        ⟨cache.entries.modify closure (replaceFirst (isMarker heap args) change)⟩ id +
        cache.taken heap closure args id =
      cache.pending id := by
  unfold pending taken set
  rw [of_modify _ _ _ rfl]
  by_cases same : id = closure
  · subst same
    rw [if_pos rfl, if_pos rfl]
    have running : ∀ entry, isMarker heap args entry = true → entry.isRunning = true :=
      fun entry marker => (Bool.and_eq_true_iff.mp marker).1
    exact countP_replaceFirst running finished (cache.of id)
  · rw [if_neg same, if_neg same, ite_self, Nat.add_zero]

theorem pending_finish (cache : Cache) (heap : Heap) (closure id : ClosureId) (args : List Ty)
    (result : Ty) (body : Program) :
    (cache.finish heap closure args result body).pending id +
        cache.taken heap closure args id =
      cache.pending id :=
  pending_replaceFirst cache heap closure id args fun _ => rfl

theorem pending_abandon (cache : Cache) (heap : Heap) (closure id : ClosureId)
    (args : List Ty) :
    (cache.abandon heap closure args).pending id + cache.taken heap closure args id =
      cache.pending id :=
  pending_replaceFirst cache heap closure id args fun _ => rfl

/-- A marker that is taken away at once leaves as many as before. -/
theorem pending_abandon_mark (cache : Cache) (heap : Heap) (closure id : ClosureId)
    (args : List Ty) :
    ((cache.mark closure args).abandon heap closure args).pending id = cache.pending id := by
  have abandoned := pending_abandon (cache.mark closure args) heap closure id args
  rw [taken, holdsMarker_mark, if_pos rfl, pending_mark] at abandoned
  exact Nat.add_right_cancel abandoned

/-- A running entry that is found is counted. -/
theorem pending_pos {cache : Cache} {heap : Heap} {id : ClosureId} {args stored : List Ty}
    (found : cache.recalled? heap id args = some ⟨stored, .running⟩) : 0 < cache.pending id :=
  List.countP_pos_iff.mpr ⟨_, List.mem_of_find?_eq_some found, rfl⟩

end Cache

end CallTyping
