/-
This file proves that comparisons of types end by themselves. Handles are followed
only when both stand on the heap and their pair was not followed before, and the
heap has finitely many pairs. So a comparison never gets to its bound on depth:
whatever is put there, the answer is the same.
-/

import CallTyping.Heap.Equality
import Mathlib.Logic.Function.Iterate

namespace CallTyping

namespace Heap

/-! ### Pairs of handles that are left -/

/-- The pairs of handles on the heap. -/
def pairs (heap : Heap) : List HandlePair :=
  ((List.range heap.objects.size).flatMap fun left =>
    (List.range heap.objects.size).map fun right => .objects ⟨left⟩ ⟨right⟩) ++
  ((List.range heap.variants.size).flatMap fun left =>
    (List.range heap.variants.size).map fun right => .variants ⟨left⟩ ⟨right⟩)

theorem length_pairs (heap : Heap) : heap.pairs.length = heap.pairCount := by
  simp only [pairs, pairCount, List.length_append, List.length_flatMap, List.length_map,
    List.length_range, List.map_const', List.sum_replicate_nat]

theorem objects_mem_pairs {heap : Heap} {left right : ObjectId}
    (leftInside : left.index < heap.objects.size) (rightInside : right.index < heap.objects.size) :
    .objects left right ∈ heap.pairs := by
  refine List.mem_append_left _ (List.mem_flatMap.mpr ⟨left.index, ?_, ?_⟩)
  · exact List.mem_range.mpr leftInside
  · exact List.mem_map.mpr ⟨right.index, List.mem_range.mpr rightInside, rfl⟩

theorem variants_mem_pairs {heap : Heap} {left right : VariantId}
    (leftInside : left.index < heap.variants.size)
    (rightInside : right.index < heap.variants.size) :
    .variants left right ∈ heap.pairs := by
  refine List.mem_append_right _ (List.mem_flatMap.mpr ⟨left.index, ?_, ?_⟩)
  · exact List.mem_range.mpr leftInside
  · exact List.mem_map.mpr ⟨right.index, List.mem_range.mpr rightInside, rfl⟩

/-- The number of pairs on the heap that were not followed yet. -/
def unfollowed (heap : Heap) (assumed : Assumptions) : Nat :=
  (heap.pairs.filter (· ∉ assumed)).length

theorem unfollowed_nil (heap : Heap) : heap.unfollowed [] < heap.comparisonDepth := by
  have bound := List.length_filter_le (fun pair => decide (pair ∉ ([] : Assumptions))) heap.pairs
  rw [length_pairs] at bound
  exact Nat.lt_succ_of_le bound

theorem filter_cons (heap : Heap) (pair : HandlePair) (assumed : Assumptions) :
    heap.pairs.filter (· ∉ pair :: assumed) =
      (heap.pairs.filter (· ∉ assumed)).filter (· ≠ pair) := by
  rw [List.filter_filter]
  refine List.filter_congr fun other _ => ?_
  simp

theorem unfollowed_cons_le (heap : Heap) (pair : HandlePair) (assumed : Assumptions) :
    heap.unfollowed (pair :: assumed) ≤ heap.unfollowed assumed := by
  rw [unfollowed, filter_cons]
  exact List.length_filter_le _ _

/-- To follow a new pair leaves fewer of them. -/
theorem unfollowed_cons_lt {heap : Heap} {pair : HandlePair} {assumed : Assumptions}
    (present : pair ∈ heap.pairs) (new : pair ∉ assumed) :
    heap.unfollowed (pair :: assumed) < heap.unfollowed assumed := by
  rw [unfollowed, filter_cons]
  refine List.length_filter_lt_length_iff_exists.mpr ⟨pair, ?_, by simp⟩
  exact List.mem_filter.mpr ⟨present, decide_eq_true new⟩

end Heap

/-! ### Comparisons that answer alike -/

/-- While this many pairs are left, both comparisons answer alike, and not more are left then. -/
def Alike (heap : Heap) (left : Nat) (first second : Comparison) : Prop :=
  ∀ assumed, heap.unfollowed assumed < left →
    first assumed = second assumed ∧
      ∀ answer ∈ second assumed, heap.unfollowed answer ≤ heap.unfollowed assumed

namespace Alike

variable {heap : Heap} {left : Nat}

theorem done : Alike heap left some some :=
  fun _ _ => ⟨rfl, fun _ answered => Option.mem_some.mp answered ▸ Nat.le_refl _⟩

theorem differ : Alike heap left (fun _ => none) fun _ => none :=
  fun _ _ => ⟨rfl, fun _ answered => nomatch answered⟩

theorem andThen {first second first' second' : Comparison} (start : Alike heap left first second)
    (rest : Alike heap left first' second') :
    Alike heap left (fun assumed => (first assumed).bind first')
      fun assumed => (second assumed).bind second' := by
  intro assumed enough
  obtain ⟨equal, fewer⟩ := start assumed enough
  dsimp only
  rw [equal]
  cases answered : second assumed with
  | none => exact ⟨rfl, fun _ member => nomatch member⟩
  | some middle =>
    have less := fewer middle answered
    obtain ⟨equal', fewer'⟩ := rest middle (Nat.lt_of_le_of_lt less enough)
    exact ⟨equal', fun answer member => Nat.le_trans (fewer' answer member) less⟩

variable {first second : HandlePair → Comparison}

mutual

theorem types (handles : ∀ pair, Alike heap left (first pair) (second pair)) :
    (ty other : Ty) → Alike heap left (compareTypes first ty other) (compareTypes second ty other)
  | .function closure arity bound, other => by
    cases other with
    | function otherClosure otherArity otherBound =>
      simp only [compareTypes]
      split
      · exact lists handles bound otherBound
      · exact differ
    | _ => simpa only [compareTypes] using differ
  | .object _, other => by
    cases other with
    | object _ => simpa only [compareTypes] using handles _
    | _ => simpa only [compareTypes] using differ
  | .variant _, other => by
    cases other with
    | variant _ => simpa only [compareTypes] using handles _
    | _ => simpa only [compareTypes] using differ
  | .unit, other | .bool, other | .integer, other | .float, other | .string, other => by
    cases other <;> simp only [compareTypes] <;> first | exact done | exact differ

theorem lists (handles : ∀ pair, Alike heap left (first pair) (second pair)) :
    (types others : List Ty) →
      Alike heap left (compareLists first types others) (compareLists second types others)
  | [], [] => by simpa only [compareLists] using done
  | ty :: types, other :: others => by
    simp only [compareLists]
    exact andThen (Alike.types handles ty other) (lists handles types others)
  | [], _ :: _ | _ :: _, [] => by simpa only [compareLists] using differ

end

theorem entries {α : Type} {compare compare' : α → α → Comparison} {others : OrderedMap String α}
    (parts : ∀ part other, Alike heap left (compare part other) (compare' part other))
    (listed : List (String × α)) :
    Alike heap left (compareEntries compare others listed)
      (compareEntries compare' others listed) := by
  induction listed with
  | nil => exact done
  | cons entry rest inductionHypothesis =>
    obtain ⟨name, part⟩ := entry
    simp only [compareEntries]
    cases others.get? name with
    | none => exact differ
    | some other => exact andThen (parts part other) inductionHypothesis

theorem parts {α : Type} {compare compare' : α → α → Comparison} {map others : OrderedMap String α}
    (parts : ∀ part other, Alike heap left (compare part other) (compare' part other)) :
    Alike heap left (compareParts compare map others) (compareParts compare' map others) := by
  unfold compareParts
  split
  · exact entries parts _
  · exact differ

/-- What comes of the parts behind a pair may rely on the pair being followed. -/
theorem followed {first second : Comparison} {pair : HandlePair} {assumed : Assumptions}
    (parts : Alike heap left first second) (enough : heap.unfollowed assumed < left + 1)
    (present : pair ∈ heap.pairs) (new : pair ∉ assumed) :
    first (pair :: assumed) = second (pair :: assumed) ∧
      ∀ answer ∈ second (pair :: assumed), heap.unfollowed answer ≤ heap.unfollowed assumed := by
  have less := Heap.unfollowed_cons_lt present new
  obtain ⟨equal, fewer⟩ := parts (pair :: assumed) (by omega)
  exact ⟨equal, fun answer member => Nat.le_trans (fewer answer member) (Nat.le_of_lt less)⟩

/-- Two maps of parts of which one has no entries are compared without a look at the parts. -/
theorem empty {α : Type} {compare compare' : α → α → Comparison} {map others : OrderedMap String α}
    (bare : map.entries = [] ∨ others.entries = []) (pair : HandlePair) (assumed : Assumptions) :
    compareParts compare map others (pair :: assumed) =
        compareParts compare' map others (pair :: assumed) ∧
      ∀ answer ∈ compareParts compare' map others (pair :: assumed),
        heap.unfollowed answer ≤ heap.unfollowed assumed := by
  unfold compareParts
  split
  next sizes =>
    have none : map.entries = [] := by
      rcases bare with none | none
      · exact none
      · exact List.length_eq_zero_iff.mp (sizes.trans (List.length_eq_zero_iff.mpr none))
    rw [none]
    exact ⟨rfl, fun _ answered =>
      Option.mem_some.mp answered ▸ heap.unfollowed_cons_le pair assumed⟩
  next => exact ⟨rfl, fun _ answered => nomatch answered⟩

end Alike

namespace Heap

theorem entries_fields_outside {heap : Heap} {id : ObjectId}
    (outside : ¬id.index < heap.objects.size) : (heap.fields id).entries = [] := by
  rw [fields, Arena.get?_outside _ _ (Nat.le_of_not_lt outside)]
  rfl

theorem entries_tags_outside {heap : Heap} {id : VariantId}
    (outside : ¬id.index < heap.variants.size) : (heap.tags id).entries = [] := by
  rw [tags, Arena.get?_outside _ _ (Nat.le_of_not_lt outside)]
  rfl

/-- Following one more pair of handles is alike when following what is behind it is. -/
theorem follow_alike {heap : Heap} {left : Nat} {first second : HandlePair → Comparison}
    (handles : ∀ pair, Alike heap left (first pair) (second pair)) (pair : HandlePair) :
    Alike heap (left + 1) (heap.follow first pair) (heap.follow second pair) := by
  intro assumed enough
  unfold follow
  split
  · exact ⟨rfl, fun _ answered => Option.mem_some.mp answered ▸ Nat.le_refl _⟩
  next fresh =>
    have new : pair ∉ assumed := fun member => fresh (.inr member)
    cases pair with
    | objects one other =>
      by_cases inside : one.index < heap.objects.size ∧ other.index < heap.objects.size
      · exact (Alike.parts (Alike.types handles)).followed enough
          (objects_mem_pairs inside.1 inside.2) new
      · refine Alike.empty ?_ _ _
        rcases Decidable.not_and_iff_or_not.mp inside with outside | outside
        · exact .inl (entries_fields_outside outside)
        · exact .inr (entries_fields_outside outside)
    | variants one other =>
      by_cases inside : one.index < heap.variants.size ∧ other.index < heap.variants.size
      · exact (Alike.parts (Alike.lists handles)).followed enough
          (variants_mem_pairs inside.1 inside.2) new
      · refine Alike.empty ?_ _ _
        rcases Decidable.not_and_iff_or_not.mp inside with outside | outside
        · exact .inl (entries_tags_outside outside)
        · exact .inr (entries_tags_outside outside)

/-- Below its bound a comparison is like one that goes on beyond it in any way. -/
theorem compareHandles_alike (heap : Heap) (beyond : HandlePair → Comparison) (depth more : Nat)
    (pair : HandlePair) :
    Alike heap depth (heap.compareHandles depth pair)
      (heap.follow^[depth + more] beyond pair) := by
  induction depth generalizing pair with
  | zero => exact fun assumed impossible => absurd impossible (Nat.not_lt_zero _)
  | succ depth inductionHypothesis =>
    rw [Nat.succ_add, Function.iterate_succ_apply']
    exact follow_alike inductionHypothesis pair

/-- A comparison never meets the bound on its depth. -/
theorem same_beyond (heap : Heap) (beyond : HandlePair → Comparison) {depth : Nat}
    (enough : heap.comparisonDepth ≤ depth) (left right : Ty) :
    (compareTypes (heap.follow^[depth] beyond) left right []).isSome = heap.same left right := by
  obtain ⟨more, rfl⟩ := Nat.exists_eq_add_of_le enough
  have alike := Alike.types (heap.compareHandles_alike beyond heap.comparisonDepth more) left right
  rw [same, (alike [] heap.unfollowed_nil).1]

end Heap

end CallTyping
