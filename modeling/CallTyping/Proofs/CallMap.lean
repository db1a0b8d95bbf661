/-
This file proves that the record of calls is a finite map as long as the types of the
arguments stand still. Its keys are closures with lists of argument types, of which
only the structure counts. The record keeps a list of entries for every closure and
looks for an entry by comparing arguments, so it depends on the comparison being an
equivalence, and on every list holding each key once. Each use of the record is shown
to do what the map does, and sequences of uses follow by induction. The types may be
on another heap at every use: what matters is only that they look the same there.
-/

import CallTyping.Proofs.Keeping
import CallTyping.Proofs.Signatures
import Mathlib.Data.List.Basic
import Mathlib.Data.Quot

namespace CallTyping

/-! ### Keys that are left out or looked at -/

namespace OrderedMap

variable {κ α : Type} [DecidableEq κ]

/-- The map without a key; all other keys keep their places. -/
def without (map : OrderedMap κ α) (key : κ) : OrderedMap κ α :=
  ⟨map.entries.filter (·.1 ≠ key), (List.filter_sublist.map Prod.fst).nodup map.distinct⟩

theorem modify_of_get? {map : OrderedMap κ α} {key : κ} {value : α} {change : α → α}
    (held : map.get? key = some value) : map.modify key change = map.insert key (change value) := by
  rw [modify, held]

theorem find_filter (keep : κ → Bool) {key : κ} (kept : keep key = true)
    (entries : List (κ × α)) :
    find key (entries.filter (keep ·.1)) = find key entries := by
  induction entries with
  | nil => rfl
  | cons entry rest inductionHypothesis =>
    by_cases same : entry.1 = key
    · rw [List.filter_cons_of_pos (same ▸ kept), find, find, if_pos same, if_pos same]
    · rw [List.filter_cons]
      split
      · rw [find, find, if_neg same, if_neg same, inductionHypothesis]
      · rw [find, if_neg same, inductionHypothesis]

theorem filter_put (keep : κ → Bool) (key : κ) (value : α) (entries : List (κ × α)) :
    (put key value entries).filter (keep ·.1) =
      if keep key then put key value (entries.filter (keep ·.1))
      else entries.filter (keep ·.1) := by
  induction entries with
  | nil =>
    rw [put, List.filter_cons]
    rfl
  | cons entry rest inductionHypothesis =>
    obtain ⟨other, old⟩ := entry
    by_cases same : other = key
    · subst same
      cases kept : keep other <;> simp [put, kept]
    · rw [put, if_neg same, List.filter_cons, List.filter_cons, inductionHypothesis]
      cases keep other <;> cases keep key <;> simp [put, same]

end OrderedMap

/-! ### Signatures -/

namespace Heap

/-- Having the same structure position by position is an equivalence of argument lists. -/
theorem sameArguments_equivalence (heap : Heap) :
    Equivalence fun first second => heap.sameArguments first second = true where
  refl := heap.sameArguments_self
  symm {first second} same := by
    rw [sameArguments_iff] at same ⊢
    exact (List.Forall₂.imp (fun _ _ alike path => (alike path).symm) same).flip
  trans {first second third} left right := by
    rw [sameArguments_iff] at left right ⊢
    induction left generalizing third with
    | nil => exact right
    | cons head _ inductionHypothesis =>
      cases right with
      | cons further tail =>
        exact .cons (fun path => (head path).trans (further path)) (inductionHypothesis tail)

/-- Lists of arguments up to their structure. -/
def signatures (heap : Heap) : Setoid (List Ty) := ⟨_, heap.sameArguments_equivalence⟩

/-- What the record distinguishes of a list of arguments. -/
def Signature (heap : Heap) : Type := Quotient heap.signatures

def signature (heap : Heap) (args : List Ty) : heap.Signature := Quotient.mk heap.signatures args

theorem signature_eq {heap : Heap} {first second : List Ty} :
    heap.signature first = heap.signature second ↔ heap.sameArguments first second = true :=
  Quotient.eq

instance (heap : Heap) (first second : List Ty) : Decidable (heap.signatures.r first second) :=
  inferInstanceAs (Decidable (heap.sameArguments first second = true))

instance (heap : Heap) : DecidableEq heap.Signature :=
  inferInstanceAs (DecidableEq (Quotient heap.signatures))

end Heap

/-! ### Uses of the record and of the map -/

/-- A use of the record of calls. -/
inductive CacheCall where
  | start (closure : ClosureId) (args : List Ty)
  | finish (closure : ClosureId) (args : List Ty) (result : Ty) (body : Program)
  | abandon (closure : ClosureId) (args : List Ty)

namespace CacheCall

def closure : CacheCall → ClosureId
  | .start closure _ | .finish closure _ _ _ | .abandon closure _ => closure

def args : CacheCall → List Ty
  | .start _ args | .finish _ args _ _ | .abandon _ args => args

end CacheCall

/-- Uses the record on the heap of the moment. Only the start of a call is answered. -/
def Cache.use (cache : Cache) (now : Heap) : CacheCall → Option Recall × Cache
  | .start closure args => ((cache.start now closure args).map some id)
  | .finish closure args result body => (none, cache.finish now closure args result body)
  | .abandon closure args => (none, cache.abandon now closure args)

/-- Calls by their closure and signature, each with its arguments and how far it has come. -/
abbrev CallMap (heap : Heap) := OrderedMap (ClosureId × heap.Signature) Specialization

/-- Does the same to a finite map. -/
def CallMap.use {heap : Heap} (map : CallMap heap) : CacheCall → Option Recall × CallMap heap
  | .start closure args =>
    let key := (closure, heap.signature args)
    match map.get? key with
    | none => (some .started, map.insert key ⟨args, .running⟩)
    | some entry =>
      match entry.progress with
      | .running => (some .running, map)
      | .done result _ => (some (.known result), map)
  | .finish closure args result body =>
    let key := (closure, heap.signature args)
    if (map.get? key).any Specialization.isRunning then
      (none, map.modify key fun entry => { entry with progress := .done result body })
    else (none, map)
  | .abandon closure args =>
    let key := (closure, heap.signature args)
    if (map.get? key).any Specialization.isRunning then (none, map.without key)
    else (none, map)

/-- An entry of a closure under its key. -/
def Specialization.keyed (heap : Heap) (id : ClosureId) (entry : Specialization) :
    (ClosureId × heap.Signature) × Specialization :=
  ((id, heap.signature entry.args), entry)

/-- The record holds for every closure what the map holds for it, in the same order. -/
def Refines (heap : Heap) (cache : Cache) (map : CallMap heap) : Prop :=
  ∀ id, (cache.of id).map (·.keyed heap id) = map.entries.filter (·.1.1 = id)

/-! ### The entries of one closure -/

namespace Cache

variable {heap : Heap} {id : ClosureId} {args : List Ty} {stored : Specialization}
  {entries : List Specialization}

/-- Whether an entry is one for these arguments. -/
def isFor (heap : Heap) (args : List Ty) (entry : Specialization) : Bool :=
  heap.sameArguments entry.args args

theorem key_eq_iff (entry : Specialization) :
    (entry.keyed heap id).1 = (id, heap.signature args) ↔ isFor heap args entry = true :=
  ⟨fun same => Heap.signature_eq.mp (Prod.mk.inj same).2,
    fun same => congrArg (Prod.mk id) (Heap.signature_eq.mpr same)⟩

theorem find_keyed (heap : Heap) (id : ClosureId) (args : List Ty)
    (entries : List Specialization) :
    OrderedMap.find (id, heap.signature args) (entries.map (·.keyed heap id)) =
      entries.find? (isFor heap args) := by
  induction entries with
  | nil => rfl
  | cons entry rest inductionHypothesis =>
    by_cases same : isFor heap args entry = true
    · rw [List.map_cons, OrderedMap.find, if_pos ((key_eq_iff entry).mpr same),
        List.find?_cons_of_pos same]
      rfl
    · rw [List.map_cons, OrderedMap.find, if_neg fun equal => same ((key_eq_iff entry).mp equal),
        List.find?_cons_of_neg same, inductionHypothesis]

theorem replaceFirst_of_none {wanted : Specialization → Bool}
    {change : Specialization → List Specialization}
    (none : ∀ entry ∈ entries, wanted entry = false) :
    replaceFirst wanted change entries = entries := by
  induction entries with
  | nil => rfl
  | cons entry rest inductionHypothesis =>
    rw [replaceFirst, none entry List.mem_cons_self, if_neg Bool.false_ne_true,
      inductionHypothesis fun other member => none other (List.mem_cons_of_mem _ member)]

/-- If the first entry with such arguments is running, it is the first marker of the call. -/
theorem replaceFirst_keyed (change : Specialization → Specialization)
    (found : entries.find? (isFor heap args) = some stored)
    (running : stored.isRunning = true) (fixed : ∀ entry, (change entry).args = entry.args) :
    (replaceFirst (isMarker heap args) (fun entry => [change entry]) entries).map
        (·.keyed heap id) =
      OrderedMap.put (id, heap.signature args) (change stored)
        (entries.map (·.keyed heap id)) := by
  induction entries with
  | nil => cases found
  | cons entry rest inductionHypothesis =>
    by_cases same : isFor heap args entry = true
    · rw [List.find?_cons_of_pos same] at found
      obtain rfl := Option.some.inj found
      have marker : isMarker heap args entry = true := Bool.and_eq_true_iff.mpr ⟨running, same⟩
      rw [replaceFirst, if_pos marker, List.map_cons, OrderedMap.put,
        if_pos ((key_eq_iff entry).mpr same), List.singleton_append, List.map_cons]
      rw [Specialization.keyed, fixed]
      rfl
    · rw [List.find?_cons_of_neg same] at found
      have other : isMarker heap args entry = false := by
        rw [isMarker, ← isFor, Bool.eq_false_iff.mpr same, Bool.and_false]
      rw [replaceFirst, if_neg (Bool.eq_false_iff.mp other), List.map_cons, List.map_cons,
        OrderedMap.put, if_neg fun equal => same ((key_eq_iff entry).mp equal),
        inductionHypothesis found]

theorem dropFirst_keyed (distinct : ((entries.map (·.keyed heap id)).map Prod.fst).Nodup)
    (found : entries.find? (isFor heap args) = some stored)
    (running : stored.isRunning = true) :
    (replaceFirst (isMarker heap args) (fun _ => []) entries).map (·.keyed heap id) =
      (entries.map (·.keyed heap id)).filter (·.1 ≠ (id, heap.signature args)) := by
  induction entries with
  | nil => cases found
  | cons entry rest inductionHypothesis =>
    obtain ⟨once, distinct⟩ := List.nodup_cons.mp distinct
    by_cases same : isFor heap args entry = true
    · rw [List.find?_cons_of_pos same] at found
      obtain rfl := Option.some.inj found
      have marker : isMarker heap args entry = true := Bool.and_eq_true_iff.mpr ⟨running, same⟩
      have key : (entry.keyed heap id).1 = (id, heap.signature args) :=
        (key_eq_iff entry).mpr same
      rw [replaceFirst, if_pos marker, List.nil_append, List.map_cons,
        List.filter_cons_of_neg (by simp [key]), List.filter_eq_self.mpr]
      intro other member
      refine decide_eq_true fun equal => once ?_
      rw [key, ← equal]
      exact List.mem_map_of_mem member
    · rw [List.find?_cons_of_neg same] at found
      have other : isMarker heap args entry = false := by
        rw [isMarker, ← isFor, Bool.eq_false_iff.mpr same, Bool.and_false]
      have key : (entry.keyed heap id).1 ≠ (id, heap.signature args) :=
        fun equal => same ((key_eq_iff entry).mp equal)
      rw [replaceFirst, if_neg (Bool.eq_false_iff.mp other), List.map_cons, List.map_cons,
        List.filter_cons_of_pos (by simpa using key), inductionHypothesis distinct found]

end Cache

/-! ### One use -/

namespace Refines

variable {heap : Heap} {cache : Cache} {map : CallMap heap} {id : ClosureId} {args : List Ty}

/-- The map knows of a call what the record recalls. -/
theorem get? (refines : Refines heap cache map) (id : ClosureId) (args : List Ty) :
    map.get? (id, heap.signature args) = cache.recalled? heap id args := by
  refine Eq.trans ?_ (Cache.find_keyed heap id args (cache.of id))
  rw [refines id]
  exact (OrderedMap.find_filter (fun key : ClosureId × heap.Signature => decide (key.1 = id))
    (decide_eq_true rfl) map.entries).symm

theorem mem (refines : Refines heap cache map) {entry : Specialization}
    (member : entry ∈ cache.of id) : map.get? (id, heap.signature entry.args) = some entry := by
  have inside : entry.keyed heap id ∈ map.entries.filter (·.1.1 = id) :=
    refines id ▸ List.mem_map_of_mem member
  exact (map.mem_entries_iff _ _).mp (List.mem_of_mem_filter inside)

theorem distinct (refines : Refines heap cache map) (id : ClosureId) :
    (((cache.of id).map (·.keyed heap id)).map Prod.fst).Nodup := by
  rw [refines id]
  exact (List.filter_sublist.map Prod.fst).nodup map.distinct

/-- A marker that the record finds is the entry that the map has for the call. -/
theorem running_of_marker (refines : Refines heap cache map) {entry : Specialization}
    (member : entry ∈ cache.of id) (marker : Cache.isMarker heap args entry = true) :
    (map.get? (id, heap.signature args)).any Specialization.isRunning = true := by
  obtain ⟨running, same⟩ := Bool.and_eq_true_iff.mp marker
  rw [← Heap.signature_eq.mpr same, refines.mem member]
  exact running

theorem use_start (refines : Refines heap cache map) (closure : ClosureId) (args : List Ty) :
    (cache.use heap (.start closure args)).1 = (map.use (.start closure args)).1 ∧
      Refines heap (cache.use heap (.start closure args)).2 (map.use (.start closure args)).2 := by
  have known := refines.get? closure args
  unfold Cache.use CallMap.use
  dsimp only
  rw [known]
  rcases found : cache.recalled? heap closure args with _ | ⟨stored, _ | ⟨result, body⟩⟩
  · rw [Cache.start_of_none found]
    refine ⟨rfl, fun other => ?_⟩
    rw [found] at known
    dsimp only [Prod.map]
    rw [id_eq, Cache.of_mark, OrderedMap.entries_insert_new _ _ _ known, List.filter_append,
      ← refines other]
    by_cases same : other = closure
    · subst same
      rw [if_pos rfl, List.map_append, List.filter_cons_of_pos (by simp)]
      rfl
    · rw [if_neg same, List.filter_cons_of_neg (by simpa using Ne.symm same), List.filter_nil,
        List.append_nil]
  · rw [Cache.start_of_running found]
    exact ⟨rfl, refines⟩
  · rw [Cache.start_of_done found]
    exact ⟨rfl, refines⟩

/-- A use that replaces the marker of a call does so to the entry that the map has for the call. -/
theorem of_replaceFirst (refines : Refines heap cache map) {closure : ClosureId} {args : List Ty}
    {change : Specialization → List Specialization} {changed : CallMap heap}
    (others : ∀ other, other ≠ closure →
      changed.entries.filter (·.1.1 = other) =
        map.entries.filter (·.1.1 = other))
    (same : (Cache.replaceFirst (Cache.isMarker heap args) change (cache.of closure)).map
      (·.keyed heap closure) = changed.entries.filter (·.1.1 = closure)) :
    Refines heap ⟨cache.entries.modify closure
      (Cache.replaceFirst (Cache.isMarker heap args) change)⟩ changed := by
  intro other
  rw [Cache.of_modify _ _ _ rfl]
  split
  next equal =>
    subst equal
    exact same
  next different =>
    rw [others other different]
    exact refines other

theorem recalled_of_any (refines : Refines heap cache map) {closure : ClosureId} {args : List Ty}
    (running : (map.get? (closure, heap.signature args)).any Specialization.isRunning = true) :
    ∃ stored, cache.recalled? heap closure args = some stored ∧
      map.get? (closure, heap.signature args) = some stored ∧ stored.isRunning = true := by
  rw [refines.get?] at running ⊢
  cases found : cache.recalled? heap closure args with
  | none =>
    rw [found] at running
    cases running
  | some stored =>
    rw [found] at running
    exact ⟨stored, rfl, rfl, running⟩

theorem use_finish (refines : Refines heap cache map) (closure : ClosureId) (args : List Ty)
    (result : Ty) (body : Program) :
    Refines heap (cache.finish heap closure args result body)
      (map.use (.finish closure args result body)).2 := by
  unfold CallMap.use Cache.finish
  dsimp only
  split
  next running =>
    obtain ⟨stored, found, held, runs⟩ := refines.recalled_of_any running
    rw [OrderedMap.modify_of_get? held]
    refine refines.of_replaceFirst (fun other different => ?_) ?_
    · refine (OrderedMap.filter_put (fun key : ClosureId × heap.Signature =>
        decide (key.1 = other)) _ _ _).trans (if_neg ?_)
      simpa using Ne.symm different
    · rw [Cache.replaceFirst_keyed (fun entry => { entry with progress := .done result body }) found
        runs fun _ => rfl, refines closure]
      refine ((OrderedMap.filter_put (fun key : ClosureId × heap.Signature =>
        decide (key.1 = closure)) _ _ _).trans (if_pos ?_)).symm
      exact decide_eq_true rfl
  next absent =>
    refine refines.of_replaceFirst (fun _ _ => rfl) ?_
    rw [Cache.replaceFirst_of_none fun entry member => ?_]
    · exact refines closure
    · exact Bool.eq_false_iff.mpr fun marker => absent (refines.running_of_marker member marker)

theorem use_abandon (refines : Refines heap cache map) (closure : ClosureId) (args : List Ty) :
    Refines heap (cache.abandon heap closure args) (map.use (.abandon closure args)).2 := by
  unfold CallMap.use Cache.abandon
  dsimp only
  split
  next running =>
    obtain ⟨stored, found, held, runs⟩ := refines.recalled_of_any running
    refine refines.of_replaceFirst (fun other different => ?_) ?_
    · rw [OrderedMap.without, List.filter_filter]
      refine List.filter_congr fun entry _ => ?_
      by_cases same : entry.1.1 = other
      · have kept : entry.1 ≠ (closure, heap.signature args) :=
          fun equal => different (same.symm.trans (congrArg Prod.fst equal))
        simp [same, kept]
      · simp [same]
    · rw [Cache.dropFirst_keyed (refines.distinct closure) found runs, refines closure]
      exact List.filter_comm _ _ _
  next absent =>
    refine refines.of_replaceFirst (fun _ _ => rfl) ?_
    rw [Cache.replaceFirst_of_none fun entry member => ?_]
    · exact refines closure
    · exact Bool.eq_false_iff.mpr fun marker => absent (refines.running_of_marker member marker)

theorem use (refines : Refines heap cache map) (call : CacheCall) :
    (cache.use heap call).1 = (map.use call).1 ∧
      Refines heap (cache.use heap call).2 (map.use call).2 := by
  cases call with
  | start closure args => exact refines.use_start closure args
  | finish closure args result body =>
    refine ⟨?_, refines.use_finish closure args result body⟩
    unfold CallMap.use
    dsimp only
    split <;> rfl
  | abandon closure args =>
    refine ⟨?_, refines.use_abandon closure args⟩
    unfold CallMap.use
    dsimp only
    split <;> rfl

/-- No two entries of a closure have arguments of the same structure. -/
theorem apart (refines : Refines heap cache map) (id : ClosureId) :
    (cache.of id).Pairwise fun first second =>
      heap.sameArguments first.args second.args = false := by
  have distinct := refines.distinct id
  rw [List.map_map, List.nodup_iff_pairwise_ne, List.pairwise_map] at distinct
  refine distinct.imp fun different => Bool.eq_false_iff.mpr fun same => different ?_
  exact congrArg (Prod.mk id) (Heap.signature_eq.mpr same)

end Refines

/-- Entries that are told apart by their closures are counted closure by closure. -/
theorem length_eq_total {σ : Type} {lists : List (ClosureId × List Specialization)}
    {entries : List ((ClosureId × σ) × Specialization)}
    (distinct : (lists.map Prod.fst).Nodup)
    (each : ∀ list ∈ lists,
      list.2.length = (entries.filter (·.1.1 = list.1)).length)
    (covers : ∀ entry ∈ entries, entry.1.1 ∈ lists.map Prod.fst) :
    lists.foldr (fun list total => list.2.length + total) 0 = entries.length := by
  induction lists generalizing entries with
  | nil =>
    cases entries with
    | nil => rfl
    | cons entry _ => exact absurd (covers entry List.mem_cons_self) List.not_mem_nil
  | cons list rest inductionHypothesis =>
    obtain ⟨once, distinct⟩ := List.nodup_cons.mp distinct
    have others : rest.foldr (fun list total => list.2.length + total) 0 =
        (entries.filter fun entry => !decide (entry.1.1 = list.1)).length := by
      refine inductionHypothesis distinct (fun other member => ?_) fun entry member => ?_
      · rw [each other (List.mem_cons_of_mem _ member), List.filter_filter]
        refine congrArg List.length (List.filter_congr fun entry _ => ?_)
        by_cases same : entry.1.1 = other.1
        · have different : entry.1.1 ≠ list.1 := fun equal =>
            once (List.mem_map.mpr ⟨other, member, same.symm.trans equal⟩)
          simp [same ▸ different, same]
        · simp [same]
      · obtain ⟨inside, different⟩ := List.mem_filter.mp member
        refine (List.mem_cons.mp (covers entry inside)).resolve_left fun equal => ?_
        simp [equal] at different
    rw [List.foldr_cons, others, each list List.mem_cons_self]
    exact (entries.length_eq_length_filter_add (decide <| ·.1.1 = list.1)).symm

namespace Refines

variable {heap : Heap} {cache : Cache} {map : CallMap heap}

/-- The record has as many entries as the map. -/
theorem count (refines : Refines heap cache map) : cache.count = map.size := by
  refine length_eq_total cache.entries.distinct (fun list member => ?_) fun entry member => ?_
  · rw [← refines list.1, List.length_map, Cache.of,
      (cache.entries.mem_entries_iff list.1 list.2).mp member]
    rfl
  · have inside : entry ∈ map.entries.filter (·.1.1 = entry.1.1) :=
      List.mem_filter.mpr ⟨member, decide_eq_true rfl⟩
    rw [← refines entry.1.1] at inside
    obtain ⟨stored, held, -⟩ := List.mem_map.mp inside
    rw [← OrderedMap.keys, ← OrderedMap.contains_iff, OrderedMap.contains]
    unfold Cache.of at held
    cases known : cache.entries.get? entry.1.1 with
    | some => rfl
    | none =>
      rw [known] at held
      cases held

end Refines

/-! ### How the record develops -/

/-- The start of a call sets a marker or leaves the record as it is. -/
theorem Cache.start_snd (cache : Cache) (now : Heap) (closure : ClosureId) (args : List Ty) :
    (cache.use now (.start closure args)).2 = cache ∨
      (cache.use now (.start closure args)).2 = cache.mark closure args := by
  show (cache.start now closure args).2 = cache ∨ (cache.start now closure args).2 = _
  rcases found : cache.recalled? now closure args with _ | ⟨stored, _ | ⟨result, body⟩⟩
  · exact .inr (by rw [start_of_none found])
  · exact .inl (by rw [start_of_running found])
  · exact .inl (by rw [start_of_done found])

/-- What becomes of the entries of a closure: finished ones stay as they are, and new ones come
after those that are left. -/
structure Develops (early late : Cache) : Prop where
  finished (id : ClosureId) : ∀ entry ∈ early.of id, entry.isRunning = false → entry ∈ late.of id
  order (id : ClosureId) : ∃ left added,
    (late.of id).map Specialization.args = left ++ added ∧
      left.Sublist ((early.of id).map Specialization.args)

namespace Develops

theorem refl (cache : Cache) : Develops cache cache :=
  ⟨fun _ _ member _ => member, fun _ => ⟨_, [], (List.append_nil _).symm, .refl _⟩⟩

theorem trans {first second third : Cache} (early : Develops first second)
    (late : Develops second third) : Develops first third where
  finished id entry member ended :=
    late.finished id entry (early.finished id entry member ended) ended
  order id := by
    obtain ⟨left, added, listed, fewer⟩ := early.order id
    obtain ⟨kept, further, listed', fewer'⟩ := late.order id
    rw [listed] at fewer'
    obtain ⟨older, newer, rfl, fromLeft, -⟩ := List.sublist_append_iff.mp fewer'
    exact ⟨older, newer ++ further, by rw [listed', List.append_assoc], fromLeft.trans fewer⟩

theorem mem_replaceFirst {wanted : Specialization → Bool}
    {change : Specialization → List Specialization} {entry : Specialization}
    {entries : List Specialization} (member : entry ∈ entries) (other : wanted entry = false) :
    entry ∈ Cache.replaceFirst wanted change entries := by
  induction entries with
  | nil => cases member
  | cons first rest inductionHypothesis =>
    rw [Cache.replaceFirst]
    rcases List.mem_cons.mp member with rfl | later
    · rw [other]
      exact List.mem_cons_self
    · split
      · exact List.mem_append_right _ later
      · exact List.mem_cons_of_mem _ (inductionHypothesis later)

/-- Whatever takes the place of a marker, finished entries stay. -/
theorem finished_replaceFirst {cache : Cache} {now : Heap} {closure : ClosureId} {args : List Ty}
    {change : Specialization → List Specialization} (id : ClosureId) :
    ∀ entry ∈ cache.of id, entry.isRunning = false →
      entry ∈ Cache.of ⟨cache.entries.modify closure
        (Cache.replaceFirst (Cache.isMarker now args) change)⟩ id := by
  intro entry member ended
  rw [Cache.of_modify _ _ _ rfl]
  split
  · refine mem_replaceFirst member ?_
    rw [Cache.isMarker, ended, Bool.false_and]
  · exact member

theorem mark (cache : Cache) (closure : ClosureId) (args : List Ty) :
    Develops cache (cache.mark closure args) where
  finished id entry member _ := by
    rw [Cache.of_mark]
    split
    next same => exact List.mem_append_left _ (same ▸ member)
    next => exact member
  order id := by
    rw [Cache.of_mark]
    split
    next same => exact ⟨_, [args], List.map_append, same ▸ .refl _⟩
    next => exact (refl cache).order id

theorem use (cache : Cache) (now : Heap) (call : CacheCall) :
    Develops cache (cache.use now call).2 := by
  cases call with
  | start closure args =>
    rcases Cache.start_snd cache now closure args with same | marked
    · rw [same]
      exact refl cache
    · rw [marked]
      exact mark cache closure args
  | finish closure args result body =>
    refine ⟨finished_replaceFirst, fun id => ⟨_, [], (List.append_nil _).symm, ?_⟩⟩
    rw [Cache.use, Cache.args_finish]
  | abandon closure args =>
    exact ⟨finished_replaceFirst, fun id => ⟨_, [], (List.append_nil _).symm,
      Cache.args_abandon cache now closure args id⟩⟩

end Develops

/-! ### Sequences of uses -/

/-- Takes one step after the other, and lists what each of them answers. -/
def answering {σ τ α : Type} (step : σ → τ → α × σ) : σ → List τ → List α × σ
  | state, [] => ([], state)
  | state, input :: rest =>
    let (answer, next) := step state input
    (answering step next rest).map (answer :: ·) id

/-- The uses of the record, each on the heap of its moment, from no calls at the beginning. -/
def Cache.uses (calls : List (Heap × CacheCall)) : List (Option Recall) × Cache :=
  answering (fun cache call => cache.use call.1 call.2) .empty calls

/-- The same for a map. -/
def CallMap.uses (heap : Heap) (calls : List CacheCall) : List (Option Recall) × CallMap heap :=
  answering CallMap.use .empty calls

/-- All types that are involved look at each moment as they do on this heap. -/
structure StandStill (heap : Heap) (calls : List (Heap × CacheCall)) : Prop where
  now : ∀ call ∈ calls, heap.Shows call.1 call.2.args
  later : calls.Pairwise fun earlier call => heap.Shows call.1 earlier.2.args

theorem develops_answering (cache : Cache) (calls : List (Heap × CacheCall)) :
    Develops cache (answering (fun cache call => cache.use call.1 call.2) cache calls).2 := by
  induction calls generalizing cache with
  | nil => exact .refl cache
  | cons call rest inductionHypothesis =>
    exact (Develops.use cache call.1 call.2).trans (inductionHypothesis _)

theorem uses_append (before after : List (Heap × CacheCall)) :
    (Cache.uses (before ++ after)).2 =
      (answering (fun cache call => cache.use call.1 call.2) (Cache.uses before).2 after).2 := by
  unfold Cache.uses
  generalize Cache.empty = cache
  induction before generalizing cache with
  | nil => rfl
  | cons call rest inductionHypothesis => exact inductionHypothesis _

section

variable {heap now : Heap} {cache : Cache}

theorem Cache.replaceFirst_congr {wanted wanted' : Specialization → Bool}
    {change : Specialization → List Specialization} {entries : List Specialization}
    (alike : ∀ entry ∈ entries, wanted entry = wanted' entry) :
    replaceFirst wanted change entries = replaceFirst wanted' change entries := by
  induction entries with
  | nil => rfl
  | cons entry rest inductionHypothesis =>
    rw [replaceFirst, replaceFirst, alike entry List.mem_cons_self,
      inductionHypothesis fun other member => alike other (List.mem_cons_of_mem _ member)]

/-- Only how the arguments of the call compare with the recorded ones matters to a use. -/
theorem Cache.use_congr (call : CacheCall)
    (alike : ∀ entry ∈ cache.of call.closure,
      now.sameArguments entry.args call.args = heap.sameArguments entry.args call.args) :
    cache.use now call = cache.use heap call := by
  have replaced (change : Specialization → List Specialization) :
      cache.entries.modify call.closure (replaceFirst (isMarker now call.args) change) =
        cache.entries.modify call.closure (replaceFirst (isMarker heap call.args) change) := by
    unfold OrderedMap.modify
    cases known : cache.entries.get? call.closure with
    | none => rfl
    | some entries =>
      refine congrArg (cache.entries.insert call.closure)
        (replaceFirst_congr fun entry member => ?_)
      rw [isMarker, isMarker, alike entry (by rwa [Cache.of, known])]
  cases call with
  | start closure args =>
    have recalled : cache.recalled? now closure args = cache.recalled? heap closure args := by
      unfold recalled?
      rw [← List.head?_filter, ← List.head?_filter]
      exact congrArg List.head? (List.filter_congr alike)
    have started : cache.start now closure args = cache.start heap closure args := by
      unfold recalled? at recalled
      unfold start
      rw [recalled]
    exact congrArg (Prod.map some id) started
  | finish | abandon =>
    exact congrArg (fun entries => ((none : Option Recall), Cache.mk entries)) (replaced _)

/-- The arguments of an entry are those of the use, or were recorded before. -/
theorem Cache.args_use (call : CacheCall) {id : ClosureId} {entry : Specialization}
    (member : entry ∈ (cache.use now call).2.of id) :
    entry.args = call.args ∨ entry.args ∈ (cache.of id).map Specialization.args := by
  cases call with
  | start closure args =>
    rcases Cache.start_snd cache now closure args with same | marked
    · rw [same] at member
      exact .inr (List.mem_map_of_mem member)
    · rw [marked] at member
      rcases mem_mark member with old | ⟨-, rfl⟩
      · exact .inr (List.mem_map_of_mem old)
      · exact .inl rfl
  | finish closure args result body =>
    exact .inr (args_finish cache now closure args result body id ▸ List.mem_map_of_mem member)
  | abandon closure args =>
    exact .inr ((args_abandon cache now closure args id).subset (List.mem_map_of_mem member))

/-- A sequence of uses does to the record what it does to the map. -/
theorem Refines.answering {map : CallMap heap} (refines : Refines heap cache map)
    {calls : List (Heap × CacheCall)} (still : StandStill heap calls)
    (recorded : ∀ id, ∀ entry ∈ cache.of id, ∀ call ∈ calls, heap.Shows call.1 entry.args) :
    let ran := CallTyping.answering (fun cache call => cache.use call.1 call.2) cache calls
    let mapped := CallTyping.answering CallMap.use map (calls.map Prod.snd)
    ran.1 = mapped.1 ∧ Refines heap ran.2 mapped.2 := by
  induction calls generalizing cache map with
  | nil => exact ⟨rfl, refines⟩
  | cons call rest inductionHypothesis =>
    obtain ⟨later, pairs⟩ := List.pairwise_cons.mp still.later
    have same : cache.use call.1 call.2 = cache.use heap call.2 :=
      Cache.use_congr call.2 fun entry member =>
        (recorded _ entry member call List.mem_cons_self).sameArguments_eq
          (still.now call List.mem_cons_self)
    have shown : ∀ id, ∀ entry ∈ (cache.use heap call.2).2.of id, ∀ other ∈ rest,
        heap.Shows other.1 entry.args := by
      intro id entry member other inside
      rcases Cache.args_use call.2 member with new | old
      · exact new ▸ later other inside
      · obtain ⟨stored, present, equal⟩ := List.mem_map.mp old
        exact equal ▸ recorded id stored present other (List.mem_cons_of_mem _ inside)
    obtain ⟨answer, next⟩ := refines.use call.2
    obtain ⟨answers, last⟩ := inductionHypothesis next
      ⟨fun other member => still.now other (List.mem_cons_of_mem _ member), pairs⟩ shown
    rw [← same] at answer answers last
    exact ⟨congr (congrArg List.cons answer) answers, last⟩

end

/-- As long as the types that are involved stand still, the record of calls is a finite map from
closures and structures of argument lists: every sequence of uses gets the same answers from both,
and leaves the same entries in the same order. So no two entries of a closure have arguments of the
same structure, and the number of entries is the size of the map. Whatever is used later, finished
entries stay, and entries that are left keep their order, before all that were added. -/
theorem cache_refines_map {heap : Heap} {calls : List (Heap × CacheCall)}
    (still : StandStill heap calls) :
    let (answers, cache) := Cache.uses calls
    let (mapAnswers, map) := CallMap.uses heap (calls.map Prod.snd)
    answers = mapAnswers ∧ Refines heap cache map ∧ cache.count = map.size ∧
      (∀ id, (cache.of id).Pairwise fun first second =>
        heap.sameArguments first.args second.args = false) ∧
      ∀ before after, calls = before ++ after → Develops (Cache.uses before).2 cache := by
  have empty : Refines heap .empty .empty := fun _ => rfl
  obtain ⟨answers, refines⟩ := empty.answering still fun _ _ member =>
    absurd member List.not_mem_nil
  refine ⟨answers, refines, refines.count, refines.apart, ?_⟩
  rintro before after rfl
  show Develops _ (Cache.uses (before ++ after)).2
  rw [uses_append]
  exact develops_answering _ after

/-- An object on a heap, and another one of the same structure that comes later. -/
def twinHeaps : Heap × Heap :=
  let fields : Fields := .ofList [("x", .integer)]
  let first := (Heap.empty.newObject fields).2
  (first, (first.newObject fields).2)

/-- A call with the first object, during which another call begins and is given up, and which ends
with the second object for the first. -/
def twinCalls : List (Heap × CacheCall) :=
  (twinHeaps.1, .start ⟨0⟩ [.object ⟨0⟩]) ::
    [.start ⟨0⟩ [.bool], .abandon ⟨0⟩ [.bool], .finish ⟨0⟩ [.object ⟨1⟩] .string [],
      .start ⟨0⟩ [.object ⟨1⟩]].map (twinHeaps.2, ·)

/-- The call is known under the second object when it has ended, and no other one is recorded. -/
theorem twinCalls_refine :
    StandStill twinHeaps.2 twinCalls ∧
      (Cache.uses twinCalls).1 =
        [some .started, some .started, none, none, some (.known .string)] ∧
      (CallMap.uses twinHeaps.2 (twinCalls.map Prod.snd)).2.size = 1 := by
  have early : twinHeaps.2.Shows twinHeaps.1 [.object ⟨0⟩] := by
    have grown : twinHeaps.1.Grows twinHeaps.2 := Heap.newObject_grows _ _
    have lasts : twinHeaps.1.Lasts twinHeaps.2 [.object ⟨0⟩] :=
      Heap.lasts_of_fixes (by decide +kernel)
    exact fun root member path => (grown.seen_eq path (lasts root member)).symm
  have late (types : List Ty) : twinHeaps.2.Shows twinHeaps.2 types := fun _ _ _ => rfl
  have still : StandStill twinHeaps.2 twinCalls := by
    refine ⟨fun call member => ?_, List.pairwise_cons.mpr ⟨fun call member => ?_, ?_⟩⟩
    · rcases List.mem_cons.mp member with rfl | member
      · exact early
      · obtain ⟨call, -, rfl⟩ := List.mem_map.mp member
        exact late _
    · obtain ⟨call, -, rfl⟩ := List.mem_map.mp member
      exact late _
    · exact List.pairwise_map.mpr (List.pairwise_of_forall fun _ _ => late _)
  have refines := cache_refines_map still
  exact ⟨still, rfl, refines.2.2.1.symm.trans rfl⟩

end CallTyping
