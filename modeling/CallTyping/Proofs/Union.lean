/-
This file says exactly what a join does. Two variants are compatible if every tag
that both of them have takes arguments of the same structure in both; variants of
the same structure are. Exactly the compatible ones join, and then the left one takes
over the tags that it lacks, in their order and with their arguments. Nothing else on
the heap changes, and types that do not join leave it as it was.
-/

import CallTyping.Proofs.Looking

namespace CallTyping

/-! ### Unions of tags -/

namespace Heap

section

variable (known incoming : Tags)

theorem get?_union (tag : String) :
    (union known incoming).get? tag = (known.get? tag).or (incoming.get? tag) := by
  refine Option.ext fun args => ?_
  rw [← OrderedMap.mem_entries_iff, entries_union_eq, List.mem_append, List.mem_filter,
    OrderedMap.mem_entries_iff, OrderedMap.mem_entries_iff]
  cases held : known.get? tag <;> simp [OrderedMap.contains, held]

theorem contains_union (tag : String) :
    (union known incoming).contains tag = (known.contains tag || incoming.contains tag) := by
  rw [OrderedMap.contains, get?_union]
  exact Option.isSome_or

/-- Nothing is taken over from a side without tags of its own. -/
theorem union_eq_left (covered : ∀ tag, incoming.contains tag = true → known.contains tag = true) :
    union known incoming = known := by
  refine OrderedMap.ext ?_
  rw [entries_union_eq, List.append_right_eq_self, List.filter_eq_nil_iff]
  intro entry member
  have present : incoming.contains entry.1 = true :=
    (OrderedMap.contains_iff incoming entry.1).mpr (List.mem_map_of_mem member)
  rw [covered entry.1 present]
  exact Bool.false_ne_true

end

/-! ### Compatible variants -/

/-- Every tag that both variants have takes arguments of the same structure in both. -/
def Compatible (heap : Heap) (left right : VariantId) : Prop :=
  ∀ tag args others, heap.tag? left tag = some args → heap.tag? right tag = some others →
    List.Forall₂ heap.Indistinct args others

variable {heap : Heap} {left right : VariantId}

theorem conflicting_eq_false :
    heap.conflicting (heap.tags left) (heap.tags right) = false ↔ heap.Compatible left right := by
  unfold conflicting
  rw [List.any_eq_false]
  constructor
  · intro agree tag args others held incoming
    have fine := agree (tag, others) ((OrderedMap.mem_entries_iff _ _ _).mpr incoming)
    dsimp only at fine
    rw [show (heap.tags left).get? tag = some args from held] at fine
    simpa [sameArguments_iff] using fine
  · rintro compatible ⟨tag, others⟩ member
    have incoming := (OrderedMap.mem_entries_iff _ _ _).mp member
    dsimp only
    cases held : (heap.tags left).get? tag with
    | none => exact Bool.false_ne_true
    | some args =>
      have same := (sameArguments_iff heap args others).mpr
        (compatible tag args others held incoming)
      simp [same]

/-- Variants of the same structure have the same tags, and are compatible. -/
theorem Indistinct.covered (same : heap.Indistinct (.variant left) (.variant right)) :
    (∀ tag, (heap.tags right).contains tag = true → (heap.tags left).contains tag = true) ∧
      heap.Compatible left right := by
  have parts := heap.indistinct_bisimulation.tags same
  refine ⟨fun tag => ?_, fun tag args others held incoming => ?_⟩
  · rw [OrderedMap.contains_iff, OrderedMap.contains_iff]
    exact (parts.keys tag).mpr
  · have found := parts tag
    rw [show (heap.tags left).get? tag = some args from held,
      show (heap.tags right).get? tag = some others from incoming] at found
    cases found with
    | some agree => exact agree

/-! ### Joins of variants -/

/-- The heap on which the left variant has taken over the tags of the right one. -/
def withUnion (heap : Heap) (left right : VariantId) : Heap :=
  heap.setTags left (union (heap.tags left) (heap.tags right))

theorem withUnion_grows (heap : Heap) (left right : VariantId) :
    heap.Grows (heap.withUnion left right) :=
  setTags_grows heap left _ (entries_union _ _)

theorem tags_withUnion_self (right : VariantId) (inside : left.index < heap.variants.size) :
    (heap.withUnion left right).tags left = union (heap.tags left) (heap.tags right) :=
  tags_setTags_self heap left _ inside

theorem tags_withUnion_other {other : VariantId} (right : VariantId) (different : other ≠ left) :
    (heap.withUnion left right).tags other = heap.tags other :=
  tags_setTags_other heap left other _ different

theorem setTags_same (heap : Heap) (id : VariantId) : heap.setTags id (heap.tags id) = heap := by
  unfold setTags tags
  cases held : heap.variants.get? id.index with
  | some tags => rw [Option.getD_some, Arena.set_same _ _ _ held]
  | none =>
    have outside : heap.variants.size ≤ id.index := Array.getElem?_eq_none_iff.mp held
    rw [Arena.set_outside _ _ _ outside]

/-- A variant that has all tags of the other one takes over none. -/
theorem withUnion_of_covered
    (covered : ∀ tag, (heap.tags right).contains tag = true →
      (heap.tags left).contains tag = true) : heap.withUnion left right = heap := by
  rw [withUnion, union_eq_left _ _ covered, setTags_same]

theorem join_of_compatible (compatible : heap.Compatible left right) :
    heap.join (.variant left) (.variant right) =
      some (.variant left, heap.withUnion left right) := by
  unfold join
  cases same : heap.same (.variant left) (.variant right) with
  | true =>
    rw [if_pos rfl, withUnion_of_covered (Indistinct.covered ((heap.same_iff _ _).mp same)).1]
  | false =>
    have different : left ≠ right := by
      rintro rfl
      rw [same_self] at same
      cases same
    dsimp only
    rw [if_neg Bool.false_ne_true, unite, if_neg different,
      conflicting_eq_false.mpr compatible, if_neg Bool.false_ne_true]
    rfl

theorem join_of_not_compatible (conflict : ¬heap.Compatible left right) :
    heap.join (.variant left) (.variant right) = none := by
  have different : heap.same (.variant left) (.variant right) = false :=
    Bool.eq_false_iff.mpr fun same =>
      conflict (Indistinct.covered ((heap.same_iff _ _).mp same)).2
  have apart : left ≠ right := by
    rintro rfl
    rw [same_self] at different
    cases different
  have conflicts : heap.conflicting (heap.tags left) (heap.tags right) = true :=
    Bool.not_eq_false _ ▸ mt conflicting_eq_false.mp conflict
  unfold join
  dsimp only
  rw [different, if_neg Bool.false_ne_true, unite, if_neg apart, conflicts, if_pos rfl]
  rfl

/-- Two variants join exactly if they are compatible, by a union. -/
theorem join_variants_eq_some {ty : Ty} {grown : Heap} :
    heap.join (.variant left) (.variant right) = some (ty, grown) ↔
      heap.Compatible left right ∧ ty = .variant left ∧ grown = heap.withUnion left right := by
  by_cases compatible : heap.Compatible left right
  · rw [join_of_compatible compatible, Option.some.injEq, Prod.mk.injEq]
    exact ⟨fun ⟨ty, grown⟩ => ⟨compatible, ty.symm, grown.symm⟩,
      fun ⟨_, ty, grown⟩ => ⟨ty.symm, grown.symm⟩⟩
  · rw [join_of_not_compatible compatible]
    exact ⟨nofun, fun joined => absurd joined.1 compatible⟩

/-! ### Joins of any types -/

/-- What a join of two types leaves of the heap. -/
structure Joined (heap : Heap) (left right : Ty) (grown : Heap) : Prop where
  objects : grown.objects = heap.objects
  variants : grown.variants.size = heap.variants.size
  others (id : VariantId) : left ≠ .variant id → grown.tags id = heap.tags id
  unchanged : heap.Indistinct left right → grown = heap
  tags {first second : VariantId} : left = .variant first → right = .variant second →
    (grown.tags first).entries = (heap.tags first).entries ++
      (heap.tags second).entries.filter fun entry => !(heap.tags first).contains entry.1

theorem join_isSome_iff (heap : Heap) (left right : Ty) :
    (heap.join left right).isSome = true ↔
      heap.Indistinct left right ∨
        ∃ first second, left = .variant first ∧ right = .variant second ∧
          heap.Compatible first second := by
  cases same : heap.same left right with
  | true =>
    refine iff_of_true ?_ (.inl ((heap.same_iff _ _).mp same))
    unfold join
    rw [if_pos same]
    rfl
  | false =>
    have different : ¬heap.Indistinct left right := fun alike =>
      Bool.false_ne_true (same.symm.trans ((heap.same_iff _ _).mpr alike))
    rw [or_iff_right different]
    constructor
    · intro joins
      obtain ⟨⟨ty, grown⟩, joined⟩ := Option.isSome_iff_exists.mp joins
      obtain ⟨first, second, rfl, rfl⟩ : ∃ first second, left = .variant first ∧
          right = .variant second := by
        unfold join at joined
        rw [if_neg (Bool.eq_false_iff.mp same)] at joined
        cases left <;> cases right <;> first | exact ⟨_, _, rfl, rfl⟩ | cases joined
      exact ⟨first, second, rfl, rfl, (join_variants_eq_some.mp joined).1⟩
    · rintro ⟨first, second, rfl, rfl, compatible⟩
      rw [join_of_compatible compatible]
      rfl

theorem joined_of_join {heap grown : Heap} {left right ty : Ty}
    (known : ∀ id, left = .variant id → id.index < heap.variants.size)
    (joined : heap.join left right = some (ty, grown)) :
    ty = left ∧ heap.Joined left right grown := by
  by_cases both : ∃ first second, left = .variant first ∧ right = .variant second
  · obtain ⟨first, second, rfl, rfl⟩ := both
    obtain ⟨-, rfl, rfl⟩ := join_variants_eq_some.mp joined
    refine ⟨rfl, rfl, Arena.size_set _ _ _, fun id different => ?_, fun same => ?_, ?_⟩
    · exact tags_withUnion_other second fun equal => different (congrArg Ty.variant equal.symm)
    · exact withUnion_of_covered same.covered.1
    · rintro _ _ ⟨⟩ ⟨⟩
      rw [tags_withUnion_self second (known first rfl), entries_union_eq]
  · obtain ⟨rfl, rfl | ⟨first, second, isFirst, isSecond, -⟩⟩ := join_cases joined
    · exact ⟨rfl, rfl, rfl, fun _ _ => rfl, fun _ => rfl, fun isFirst isSecond =>
        absurd ⟨_, _, isFirst, isSecond⟩ both⟩
    · exact absurd ⟨first, second, isFirst, isSecond⟩ both

/-- Two types join exactly if they have the same structure or are compatible variants. The join is
the left type itself. If that is a variant, then the tags it lacks are now after its own, in the
order of the right variant and with its arguments; these are none if both have the same structure.
All else on the heap is as before, and so is the whole state when types that have to agree do not
join. -/
theorem join_is_union_or_nothing (heap : Heap) {left right : Ty}
    (known : ∀ id, left = .variant id → id.index < heap.variants.size) :
    ((heap.join left right).isSome = true ↔
      heap.Indistinct left right ∨
        ∃ first second, left = .variant first ∧ right = .variant second ∧
          heap.Compatible first second) ∧
    (∀ ty grown, heap.join left right = some (ty, grown) →
      ty = left ∧ heap.Joined left right grown) ∧
    ∀ (checker : Checker) (reason : String) (span : Span), checker.heap = heap →
      (joinTypes reason span left right).outcome checker =
        match heap.join left right with
        | some (ty, grown) => (.ok ty, { checker with heap := grown })
        | none =>
          (.error (.fault ⟨checker.file, span, .mismatchedTypes left right reason⟩), checker) := by
  refine ⟨heap.join_isSome_iff left right, fun _ _ => joined_of_join known, ?_⟩
  rintro checker reason span rfl
  cases joins : checker.heap.join left right with
  | none => exact Check.outcome_joinTypes_none joins reason span
  | some joined =>
    obtain ⟨ty, grown⟩ := joined
    obtain ⟨rfl, -⟩ := join_cases joins
    exact Check.outcome_joinTypes_some joins reason span

/-- Two variants that have one tag in common, with the same arguments. -/
def overlapping : Heap where
  objects := .empty
  variants := ⟨#[.ofList [("Some", [.integer]), ("None", [])],
    .ofList [("Ok", [.string]), ("Some", [.integer])]]⟩

/-- The first variant takes over the tag that only the second one has. -/
theorem overlapping_joins :
    let left := Ty.variant ⟨0⟩
    let right := Ty.variant ⟨1⟩
    (∀ id, left = .variant id → id.index < overlapping.variants.size) ∧
      ∃ grown, overlapping.join left right = some (left, grown) ∧
        overlapping.Joined left right grown ∧
        (grown.tags ⟨0⟩).keys = ["Some", "None", "Ok"] := by
  intro left right
  have known : ∀ id, left = .variant id → id.index < overlapping.variants.size := by
    intro id isLeft
    cases Ty.variant.inj isLeft
    decide
  have joins : (overlapping.join left right).isSome = true := by decide +kernel
  obtain ⟨⟨ty, grown⟩, joined⟩ := Option.isSome_iff_exists.mp joins
  obtain ⟨rfl, unites⟩ := (join_is_union_or_nothing overlapping known).2.1 ty grown joined
  refine ⟨known, grown, joined, unites, ?_⟩
  rw [OrderedMap.keys, unites.tags rfl rfl]
  decide +kernel

end Heap

end CallTyping
