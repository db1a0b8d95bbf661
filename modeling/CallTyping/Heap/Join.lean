/-
This file defines the join of two types that meet where control flow comes
together. Types of the same structure join to the left one. Two variants join by
adding the tags of the right one to the left one in place, unless they share a
tag with different arguments. Nothing else can be joined.
-/

import CallTyping.Heap.Equality

namespace CallTyping

namespace Heap

/-- Whether the two sides know a tag in common with different argument types. -/
def conflicting (heap : Heap) (known incoming : Tags) : Bool :=
  incoming.entries.any fun (tag, arguments) =>
    match known.get? tag with
    | some others => !heap.sameArguments others arguments
    | none => false

/-- Adds the tags that are new, in their order, at the end. -/
def union (known incoming : Tags) : Tags :=
  incoming.entries.foldl (fun tags (tag, arguments) => tags.insertNew tag arguments) known

/-- A union has the tags of the left side, and after them those that only the right side has. -/
theorem entries_union_eq (known incoming : Tags) :
    (union known incoming).entries =
      known.entries ++ incoming.entries.filter fun entry => !known.contains entry.1 := by
  have distinct := incoming.distinct
  unfold union
  generalize incoming.entries = entries at distinct ⊢
  induction entries generalizing known with
  | nil => simp
  | cons entry rest inductionHypothesis =>
    obtain ⟨tag, args⟩ := entry
    obtain ⟨once, distinct⟩ := List.nodup_cons.mp distinct
    rw [List.foldl_cons, inductionHypothesis _ distinct]
    dsimp only
    unfold OrderedMap.insertNew
    cases present : known.contains tag with
    | true => rw [if_pos rfl, List.filter_cons_of_neg (by simp [present])]
    | false =>
      have absent : known.get? tag = none := by simpa [OrderedMap.contains] using present
      -- No later entry has this tag, so that it is there now makes no difference to them.
      have later : ∀ other ∈ rest, (known.insert tag args).contains other.1 =
          known.contains other.1 := by
        intro other member
        have different : other.1 ≠ tag := by
          rintro rfl
          exact once (List.mem_map.mpr ⟨other, member, rfl⟩)
        rw [OrderedMap.contains, OrderedMap.get?_insert_other _ _ _ _ different]
        rfl
      rw [if_neg Bool.false_ne_true, OrderedMap.entries_insert_new _ _ _ absent,
        List.filter_cons_of_pos (by simp [present]), List.append_assoc, List.singleton_append,
        List.filter_congr fun other member => by rw [later other member]]

/-- Adds every tag of `right` to `left`; without a result if the two are in conflict. -/
def unite (heap : Heap) (left right : VariantId) : Option Heap :=
  if left = right then
    some heap
  else if heap.conflicting (heap.tags left) (heap.tags right) then
    none
  else
    some (heap.setTags left (union (heap.tags left) (heap.tags right)))

/-- The join of two types and the heap after it. -/
def join (heap : Heap) (left right : Ty) : Option (Ty × Heap) :=
  if heap.same left right then
    some (left, heap)
  else
    match left, right with
    | .variant known, .variant incoming =>
      (heap.unite known incoming).map fun grown => (left, grown)
    | _, _ => none

/-- A join answers with its left side, and grows the heap only by uniting two variants. -/
theorem join_cases {heap grown : Heap} {left right ty : Ty}
    (joined : heap.join left right = some (ty, grown)) :
    ty = left ∧ (grown = heap ∨ ∃ known incoming, left = .variant known ∧
      right = .variant incoming ∧
      grown = heap.setTags known (union (heap.tags known) (heap.tags incoming))) := by
  unfold join at joined
  split at joined
  · cases joined
    exact ⟨rfl, .inl rfl⟩
  · split at joined
    next _ known incoming _ =>
      obtain ⟨united, unites, equal⟩ := Option.map_eq_some_iff.mp joined
      cases equal
      refine ⟨rfl, ?_⟩
      unfold unite at unites
      split at unites
      · exact .inl (Option.some.inj unites).symm
      · split at unites
        · cases unites
        · exact .inr ⟨known, incoming, rfl, rfl, (Option.some.inj unites).symm⟩
    next => cases joined

end Heap

end CallTyping
