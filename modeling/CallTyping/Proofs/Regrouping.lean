/-
This file proves how far the grouping of three joins matters. Either grouping grows
the first variant by the tags of the other two, in the same order and with the same
arguments. But the variants that are joined first are the first two in one grouping
and the last two in the other, and what is joined first stays grown. This can be seen
where a variant leads to one that grew: the comparisons of the second join may come
out otherwise, and the results may differ behind the variant in the middle. Nothing
else makes a difference.
-/

import CallTyping.Proofs.Signatures
import CallTyping.Proofs.Union

namespace CallTyping

namespace Heap

/-! ### Unions of three -/

theorem union_self (tags : Tags) : union tags tags = tags :=
  union_eq_left tags tags fun _ present => present

theorem union_assoc (first second third : Tags) :
    union (union first second) third = union first (union second third) := by
  refine OrderedMap.ext ?_
  simp only [entries_union_eq, contains_union, List.filter_append, List.filter_filter,
    List.append_assoc, Bool.not_or]

/-- Tags that a union has already are not added once more. -/
theorem union_union_left (first second : Tags) :
    union (union first second) first = union first second := by
  refine union_eq_left _ _ fun tag present => ?_
  rw [contains_union, present, Bool.true_or]

/-! ### Compatible variants -/

section

variable {heap : Heap} {left right : VariantId}

theorem compatible_self (heap : Heap) (id : VariantId) : heap.Compatible id id := by
  intro tag args others held held'
  cases held.symm.trans held'
  exact List.forall₂_same.mpr fun _ _ _ => rfl

theorem Compatible.symm (compatible : heap.Compatible left right) :
    heap.Compatible right left := by
  intro tag args others held held'
  refine List.Forall₂.flip ((compatible tag others args held' held).imp fun _ _ same path => ?_)
  exact (same path).symm

theorem alike_trans {first second third : List Ty}
    (left : List.Forall₂ heap.Indistinct first second)
    (right : List.Forall₂ heap.Indistinct second third) :
    List.Forall₂ heap.Indistinct first third := by
  induction left generalizing third with
  | nil =>
    cases right
    exact .nil
  | cons same _ inductionHypothesis =>
    cases right with
    | cons same' rest =>
      refine .cons (fun path => ?_) (inductionHypothesis rest)
      exact (same path).trans (same' path)

end

/-! ### What leads to a variant -/

/-- Some path goes from one of the types to this variant. -/
def LeadsTo (heap : Heap) (types : List Ty) (id : VariantId) : Prop :=
  ∃ root ∈ types, ∃ path, heap.along path root = some (.variant id)

/-- The right variant has a tag that the left one lacks. -/
def Adds (heap : Heap) (left right : VariantId) : Prop :=
  ∃ tag, (heap.tags right).contains tag = true ∧ (heap.tags left).contains tag = false

/-- Unless the left variant takes over nothing from the right one: no tag that a third variant has
in common with one of the two has arguments, in either variant, that lead to the left one. -/
def Undisturbed (heap : Heap) (left right third : VariantId) : Prop :=
  heap.Adds left right → ∀ tag args others,
    (heap.tag? left tag = some args ∨ heap.tag? right tag = some args) →
      heap.tag? third tag = some others → ¬heap.LeadsTo (args ++ others) left

section

variable {heap now later : Heap} {left right third changed : VariantId}

theorem not_adds : ¬heap.Adds left right ↔
    ∀ tag, (heap.tags right).contains tag = true → (heap.tags left).contains tag = true := by
  simp [Adds]

/-- If two heaps differ in one variant only, then all lasts that does not lead to it. -/
theorem lasts_of_others (objects : later.objects = now.objects)
    (others : ∀ id, id ≠ changed → later.tags id = now.tags id) {types : List Ty}
    (apart : later.tags changed = now.tags changed ∨ ¬now.LeadsTo types changed) :
    now.Lasts later types := by
  intro root member path ty reached
  cases ty with
  | object id => exact congrArg (fun arena => ((arena.get? id.index).getD .empty).size) objects
  | variant id =>
    have same : later.tags id = now.tags id := by
      by_cases isChanged : id = changed
      · subst isChanged
        exact apart.resolve_right fun apart => apart ⟨root, member, path, reached⟩
      · exact others id isChanged
    exact congrArg OrderedMap.size same
  | _ => rfl

theorem Grows.along_of_some (grown : now.Grows later) (path : List Turn) {root ty : Ty}
    (reached : now.along path root = some ty) : later.along path root = some ty := by
  induction path generalizing root with
  | nil => exact reached
  | cons turn rest inductionHypothesis =>
    rw [along] at reached ⊢
    obtain ⟨part, held, further⟩ := Option.bind_eq_some_iff.mp reached
    refine Option.bind_eq_some_iff.mpr ⟨part, ?_, inductionHypothesis further⟩
    unfold part? at held
    split at held
    · exact grown.field? held
    · obtain ⟨args, known, found⟩ := Option.bind_eq_some_iff.mp held
      exact Option.bind_eq_some_iff.mpr ⟨args, grown.tag? known, found⟩
    · exact held
    · cases held

theorem objects_withUnion (heap : Heap) (left right : VariantId) :
    (heap.withUnion left right).objects = heap.objects := rfl

theorem tag?_withUnion_self (inside : left.index < heap.variants.size) (right : VariantId)
    (tag : String) :
    (heap.withUnion left right).tag? left tag = (heap.tag? left tag).or (heap.tag? right tag) := by
  rw [tag?, tags_withUnion_self right inside, get?_union]
  rfl

/-- Comparisons that do not come to the left variant do not see its growth. -/
theorem alike_withUnion {args others : List Ty} (apart : ¬heap.LeadsTo (args ++ others) left) :
    List.Forall₂ (heap.withUnion left right).Indistinct args others ↔
      List.Forall₂ heap.Indistinct args others := by
  have lasts : heap.Lasts (heap.withUnion left right) (args ++ others) :=
    lasts_of_others (heap.objects_withUnion left right)
      (fun _ different => tags_withUnion_other right different) (.inr apart)
  have same := (heap.withUnion_grows left right).sameArguments_eq
    (fun root member => lasts root (List.mem_append_left others member))
    (fun root member => lasts root (List.mem_append_right args member))
  rw [← sameArguments_iff, ← sameArguments_iff, same]

/-- What is compatible with a variant is so with all those that it covers. -/
theorem Compatible.of_covered (compatible : heap.Compatible left right)
    (covered : ∀ tag, (heap.tags right).contains tag = true →
      (heap.tags left).contains tag = true)
    (agree : heap.Compatible left third) : heap.Compatible right third := by
  intro tag args others held held'
  have present : (heap.tags right).contains tag = true :=
    Option.isSome_iff_exists.mpr ⟨args, held⟩
  obtain ⟨first, known⟩ := Option.isSome_iff_exists.mp (covered tag present)
  exact alike_trans (compatible.symm tag args first held known)
    (agree tag first others known held')

/-- Where the growth of the left variant is not seen, exactly those variants are compatible with the
grown one that are so with both its sides. -/
theorem compatible_withUnion (inside : left.index < heap.variants.size)
    (compatible : heap.Compatible left right) (undisturbed : heap.Undisturbed left right third) :
    (heap.withUnion left right).Compatible left third ↔
      heap.Compatible left third ∧ heap.Compatible right third := by
  by_cases adds : heap.Adds left right
  case neg =>
    have covered := not_adds.mp adds
    rw [withUnion_of_covered covered]
    exact (and_iff_left_of_imp (compatible.of_covered covered)).symm
  by_cases isLeft : third = left
  case pos =>
    subst isLeft
    exact iff_of_true (compatible_self _ _) ⟨compatible_self _ _, compatible.symm⟩
  have unchanged (tag : String) : (heap.withUnion left right).tag? third tag =
      heap.tag? third tag :=
    congrArg (OrderedMap.get? · tag) (tags_withUnion_other right isLeft)
  have calm {tag : String} {args others : List Ty}
      (held : heap.tag? left tag = some args ∨ heap.tag? right tag = some args)
      (held' : heap.tag? third tag = some others) :
      List.Forall₂ (heap.withUnion left right).Indistinct args others ↔
        List.Forall₂ heap.Indistinct args others :=
    alike_withUnion (undisturbed adds tag args others held held')
  constructor
  · intro agree
    have agreeLeft : heap.Compatible left third := by
      intro tag args others held held'
      refine (calm (.inl held) held').mp (agree tag args others ?_ ?_)
      · rw [tag?_withUnion_self inside, held, Option.some_or]
      · rw [unchanged, held']
    refine ⟨agreeLeft, fun tag args others held held' => ?_⟩
    cases known : heap.tag? left tag with
    | none =>
      refine (calm (.inr held) held').mp (agree tag args others ?_ ?_)
      · rw [tag?_withUnion_self inside, known, Option.none_or, held]
      · rw [unchanged, held']
    | some first =>
      exact alike_trans (compatible.symm tag args first held known)
        (agreeLeft tag first others known held')
  · rintro ⟨agreeLeft, agreeRight⟩ tag args others held held'
    rw [unchanged] at held'
    rw [tag?_withUnion_self inside] at held
    rcases Option.or_eq_some_iff.mp held with known | ⟨-, known⟩
    · exact (calm (.inl known) held').mpr (agreeLeft tag args others known held')
    · exact (calm (.inr known) held').mpr (agreeRight tag args others known held')

end

/-! ### Both groupings -/

section

variable (heap : Heap)

/-- Joins the first two types, and then the third one to the result. -/
def joinFirstTwo (first second third : Ty) : Option (Ty × Heap) :=
  (heap.join first second).bind fun (ty, grown) => grown.join ty third

/-- Joins the last two types, and then the result to the first one. -/
def joinLastTwo (first second third : Ty) : Option (Ty × Heap) :=
  (heap.join second third).bind fun (ty, grown) => grown.join first ty

/-- The heap after both joins, when the first two variants are joined first. -/
def unitedFirstTwo (a b c : VariantId) : Heap := (heap.withUnion a b).withUnion a c

/-- The heap after both joins, when the last two variants are joined first. -/
def unitedLastTwo (a b c : VariantId) : Heap := (heap.withUnion b c).withUnion a b

/-- Two types, each on its own heap, that no path sets apart. -/
def Alike (left : Ty) (other : Heap) (right : Ty) : Prop :=
  ∀ path, (heap.along path left).map heap.surface = (other.along path right).map other.surface

end

section

variable {heap left right : Heap} {a b c : VariantId} {ty : Ty}

theorem joinFirstTwo_eq_some :
    heap.joinFirstTwo (.variant a) (.variant b) (.variant c) = some (ty, left) ↔
      (heap.Compatible a b ∧ (heap.withUnion a b).Compatible a c) ∧ ty = .variant a ∧
        left = heap.unitedFirstTwo a b c := by
  unfold joinFirstTwo
  rw [Option.bind_eq_some_iff]
  constructor
  · rintro ⟨⟨first, grown⟩, joined, joined'⟩
    obtain ⟨compatible, rfl, rfl⟩ := join_variants_eq_some.mp joined
    obtain ⟨compatible', result⟩ := join_variants_eq_some.mp joined'
    exact ⟨⟨compatible, compatible'⟩, result⟩
  · rintro ⟨⟨compatible, compatible'⟩, result⟩
    exact ⟨_, join_of_compatible compatible, join_variants_eq_some.mpr ⟨compatible', result⟩⟩

theorem joinLastTwo_eq_some :
    heap.joinLastTwo (.variant a) (.variant b) (.variant c) = some (ty, right) ↔
      (heap.Compatible b c ∧ (heap.withUnion b c).Compatible a b) ∧ ty = .variant a ∧
        right = heap.unitedLastTwo a b c := by
  unfold joinLastTwo
  rw [Option.bind_eq_some_iff]
  constructor
  · rintro ⟨⟨first, grown⟩, joined, joined'⟩
    obtain ⟨compatible, rfl, rfl⟩ := join_variants_eq_some.mp joined
    obtain ⟨compatible', result⟩ := join_variants_eq_some.mp joined'
    exact ⟨⟨compatible, compatible'⟩, result⟩
  · rintro ⟨⟨compatible, compatible'⟩, result⟩
    exact ⟨_, join_of_compatible compatible, join_variants_eq_some.mpr ⟨compatible', result⟩⟩

theorem tags_regrouped (insideA : a.index < heap.variants.size)
    (insideB : b.index < heap.variants.size) :
    (heap.unitedFirstTwo a b c).tags a = (heap.unitedLastTwo a b c).tags a := by
  rw [unitedFirstTwo, unitedLastTwo,
    tags_withUnion_self c (Nat.lt_of_lt_of_le insideA (heap.withUnion_grows a b).variants),
    tags_withUnion_self b (Nat.lt_of_lt_of_le insideA (heap.withUnion_grows b c).variants),
    tags_withUnion_self c insideB]
  by_cases isFirst : b = a
  · subst isFirst
    have same : heap.withUnion b b = heap := withUnion_of_covered fun _ present => present
    rw [tags_withUnion_self c insideA, union_self, same]
  · rw [tags_withUnion_self b insideA, tags_withUnion_other c (Ne.symm isFirst)]
    by_cases isLast : c = a
    · subst isLast
      rw [tags_withUnion_self b insideA, union_self, ← union_assoc, union_union_left]
    · rw [tags_withUnion_other b isLast, union_assoc]

/-- The results of both groupings differ in the middle variant only. -/
theorem tags_regrouped_other (insideA : a.index < heap.variants.size)
    (insideB : b.index < heap.variants.size) {id : VariantId} (notMiddle : id ≠ b) :
    (heap.unitedLastTwo a b c).tags id = (heap.unitedFirstTwo a b c).tags id := by
  by_cases isFirst : id = a
  · rw [isFirst, tags_regrouped insideA insideB]
  · rw [unitedFirstTwo, unitedLastTwo, tags_withUnion_other b isFirst,
      tags_withUnion_other c notMiddle, tags_withUnion_other c isFirst,
      tags_withUnion_other b isFirst]

theorem tags_regrouped_middle (different : b ≠ a) (inside : b.index < heap.variants.size) :
    (heap.unitedFirstTwo a b c).tags b = heap.tags b ∧
      (heap.unitedLastTwo a b c).tags b = union (heap.tags b) (heap.tags c) := by
  rw [unitedFirstTwo, unitedLastTwo, tags_withUnion_other c different,
    tags_withUnion_other b different, tags_withUnion_other b different,
    tags_withUnion_self c inside]
  exact ⟨rfl, rfl⟩

theorem objects_regrouped (heap : Heap) (a b c : VariantId) :
    (heap.unitedLastTwo a b c).objects = (heap.unitedFirstTwo a b c).objects := rfl

theorem regrouped_grows (insideA : a.index < heap.variants.size)
    (insideB : b.index < heap.variants.size) :
    (heap.unitedFirstTwo a b c).Grows (heap.unitedLastTwo a b c) where
  objects := Nat.le_refl _
  variants := by
    simp only [unitedFirstTwo, unitedLastTwo, withUnion, setTags, Arena.size_set, Nat.le_refl]
  fields _ := List.prefix_refl _
  tags id := by
    by_cases isMiddle : id = b
    · subst isMiddle
      by_cases isFirst : id = a
      · subst isFirst
        have same := tags_regrouped (c := c) insideA insideA
        exact same ▸ List.prefix_refl _
      · obtain ⟨before, after⟩ := heap.tags_regrouped_middle (c := c) isFirst insideB
        rw [before, after]
        exact entries_union _ _
    · have same := tags_regrouped_other (c := c) insideA insideB isMiddle
      exact same ▸ List.prefix_refl _

/-- The results of both groupings can be told apart exactly if the middle variant grew in the second
one and the result leads to it. -/
theorem alike_regrouped (insideA : a.index < heap.variants.size)
    (insideB : b.index < heap.variants.size) :
    (heap.unitedFirstTwo a b c).Alike (.variant a) (heap.unitedLastTwo a b c) (.variant a) ↔
      b = a ∨ ¬heap.Adds b c ∨ ¬(heap.unitedFirstTwo a b c).LeadsTo [.variant a] b := by
  have grown := heap.regrouped_grows (c := c) insideA insideB
  constructor
  · intro alike
    by_contra apart
    obtain ⟨different, adds, root, member, path, reached⟩ : b ≠ a ∧ heap.Adds b c ∧
        (heap.unitedFirstTwo a b c).LeadsTo [.variant a] b := by
      simpa only [not_or, not_not] using apart
    cases List.mem_singleton.mp member
    obtain ⟨tag, present, absent⟩ := adds
    obtain ⟨before, after⟩ := heap.tags_regrouped_middle (c := c) different insideB
    have seen := alike path
    rw [reached, grown.along_of_some path reached, Option.map_some, Option.map_some,
      Option.some.injEq, surface, surface, Surface.variant.injEq] at seen
    have known := congrArg Option.isSome (congrFun seen tag)
    rw [Option.isSome_map, Option.isSome_map, tag?, tag?, before, after] at known
    have both := contains_union (heap.tags b) (heap.tags c) tag
    rw [present, Bool.or_true] at both
    exact Bool.false_ne_true (absent.symm.trans (known.trans both))
  · intro either
    have lasts : (heap.unitedFirstTwo a b c).Lasts
        (heap.unitedLastTwo a b c) [.variant a] := by
      refine lasts_of_others (heap.objects_regrouped a b c)
        (fun _ notMiddle => tags_regrouped_other insideA insideB notMiddle) ?_
      rcases either with rfl | covered | apart
      · exact .inl (tags_regrouped insideA insideB).symm
      · by_cases isFirst : b = a
        · subst isFirst
          exact .inl (tags_regrouped insideA insideB).symm
        · obtain ⟨before, after⟩ := heap.tags_regrouped_middle (c := c) isFirst insideB
          rw [before, after]
          exact .inl (union_eq_left _ _ (not_adds.mp covered))
      · exact .inr apart
    intro path
    exact (grown.seen_eq path (lasts _ (List.mem_singleton_self _))).symm

/-- All three are compatible with each other. -/
def PairwiseCompatible (heap : Heap) (a b c : VariantId) : Prop :=
  heap.Compatible a b ∧ heap.Compatible a c ∧ heap.Compatible b c

theorem isSome_joinFirstTwo (insideA : a.index < heap.variants.size)
    (undisturbed : heap.Undisturbed a b c) :
    (heap.joinFirstTwo (.variant a) (.variant b) (.variant c)).isSome = true ↔
      heap.PairwiseCompatible a b c := by
  rw [Option.isSome_iff_exists]
  constructor
  · rintro ⟨⟨ty, left⟩, joined⟩
    obtain ⟨⟨compatible, compatible'⟩, -⟩ := joinFirstTwo_eq_some.mp joined
    exact ⟨compatible, (compatible_withUnion insideA compatible undisturbed).mp compatible'⟩
  · rintro ⟨compatible, both⟩
    exact ⟨(_, _), joinFirstTwo_eq_some.mpr
      ⟨⟨compatible, (compatible_withUnion insideA compatible undisturbed).mpr both⟩, rfl, rfl⟩⟩

theorem isSome_joinLastTwo (insideB : b.index < heap.variants.size)
    (undisturbed : heap.Undisturbed b c a) :
    (heap.joinLastTwo (.variant a) (.variant b) (.variant c)).isSome = true ↔
      heap.PairwiseCompatible a b c := by
  rw [Option.isSome_iff_exists]
  constructor
  · rintro ⟨⟨ty, right⟩, joined⟩
    obtain ⟨⟨compatible, compatible'⟩, -⟩ := joinLastTwo_eq_some.mp joined
    obtain ⟨first, last⟩ :=
      (compatible_withUnion insideB compatible undisturbed).mp compatible'.symm
    exact ⟨first.symm, last.symm, compatible⟩
  · rintro ⟨first, last, compatible⟩
    have both := (compatible_withUnion insideB compatible undisturbed).mpr ⟨first.symm, last.symm⟩
    exact ⟨(_, _), joinLastTwo_eq_some.mpr ⟨⟨compatible, both.symm⟩, rfl, rfl⟩⟩

/-- Three variants, of which the first two are in the heap, are joined from the same heap in both
groupings. Both answer or neither does if what grows first is not seen by the comparisons that come
after it. Whenever both answer, it is with the first variant, which has come to the same tags. Both
results have the same structure, unless the variant in the middle grows when it is joined first and
the result leads to it. -/
theorem joins_regroup (insideA : a.index < heap.variants.size)
    (insideB : b.index < heap.variants.size) :
    (heap.Undisturbed a b c → heap.Undisturbed b c a →
      (heap.joinFirstTwo (.variant a) (.variant b) (.variant c)).isSome =
        (heap.joinLastTwo (.variant a) (.variant b) (.variant c)).isSome) ∧
    ∀ ty ty' left right,
      heap.joinFirstTwo (.variant a) (.variant b) (.variant c) = some (ty, left) →
      heap.joinLastTwo (.variant a) (.variant b) (.variant c) = some (ty', right) →
        ty = .variant a ∧ ty' = .variant a ∧ left.tags a = right.tags a ∧
          (left.Alike ty right ty' ↔
            b = a ∨ ¬heap.Adds b c ∨ ¬left.LeadsTo [.variant a] b) := by
  constructor
  · intro first last
    rw [Bool.eq_iff_iff, isSome_joinFirstTwo insideA first, isSome_joinLastTwo insideB last]
  · intro ty ty' left right joined joined'
    obtain ⟨-, rfl, rfl⟩ := joinFirstTwo_eq_some.mp joined
    obtain ⟨-, rfl, rfl⟩ := joinLastTwo_eq_some.mp joined'
    exact ⟨rfl, rfl, tags_regrouped insideA insideB, alike_regrouped insideA insideB⟩

end

/-! ### Variants without parts in their arguments -/

/-- Whether no argument of a variant has parts. -/
def isFlat (heap : Heap) (id : VariantId) : Bool :=
  (heap.tags id).entries.all fun entry => entry.2.all Ty.isPlain

section

variable {heap : Heap} {left right third : VariantId}

theorem not_leadsTo_of_plain {types : List Ty} {id : VariantId}
    (plain : types.all Ty.isPlain = true) : ¬heap.LeadsTo types id := by
  rintro ⟨root, member, path, reached⟩
  have plainRoot := List.all_eq_true.mp plain root member
  cases path with
  | nil =>
    cases Option.some.inj reached
    cases plainRoot
  | cons turn rest =>
    cases root with
    | object | variant | function => cases plainRoot
    | _ => cases turn <;> cases reached

theorem plain_of_isFlat {id : VariantId} (flat : heap.isFlat id = true) {tag : String}
    {args : List Ty} (held : heap.tag? id tag = some args) : args.all Ty.isPlain = true :=
  List.all_eq_true.mp flat (tag, args) ((OrderedMap.mem_entries_iff _ _ _).mpr held)

theorem not_leadsTo_of_isFlat {id other : VariantId} (flat : heap.isFlat id = true)
    (different : id ≠ other) : ¬heap.LeadsTo [.variant id] other := by
  rintro ⟨root, member, path, reached⟩
  cases List.mem_singleton.mp member
  rcases path with _ | ⟨_ | ⟨tag, position⟩ | _, rest⟩
  · exact different (Ty.variant.inj (Option.some.inj reached))
  · cases reached
  · rw [along, Option.bind_eq_some_iff] at reached
    obtain ⟨part, found, further⟩ := reached
    obtain ⟨args, held, found⟩ := Option.bind_eq_some_iff.mp found
    exact not_leadsTo_of_plain (plain_of_isFlat flat held)
      ⟨part, List.mem_of_getElem? found, rest, further⟩
  · cases reached

/-- Growth is not seen from such variants. -/
theorem undisturbed_of_isFlat (flatLeft : heap.isFlat left = true)
    (flatRight : heap.isFlat right = true) (flatThird : heap.isFlat third = true) :
    heap.Undisturbed left right third := by
  intro _ tag args others held held'
  refine not_leadsTo_of_plain ?_
  rw [List.all_append, Bool.and_eq_true]
  exact ⟨held.elim (plain_of_isFlat flatLeft) (plain_of_isFlat flatRight),
    plain_of_isFlat flatThird held'⟩

end

/-- Three variants, of which the last has a tag of each of the others. -/
def threeFlat : Heap where
  objects := .empty
  variants := ⟨#[.ofList [("Some", [.integer])], .ofList [("None", [])],
    .ofList [("None", []), ("Ok", [.string]), ("Some", [.integer])]]⟩

/-- Both groupings of these join, to the same structure. -/
theorem threeFlat_regroup :
    let a : VariantId := ⟨0⟩
    let b : VariantId := ⟨1⟩
    let c : VariantId := ⟨2⟩
    (a.index < threeFlat.variants.size ∧ b.index < threeFlat.variants.size) ∧
    (threeFlat.Undisturbed a b c ∧ threeFlat.Undisturbed b c a) ∧
    (threeFlat.joinFirstTwo (.variant a) (.variant b) (.variant c)).isSome =
      (threeFlat.joinLastTwo (.variant a) (.variant b) (.variant c)).isSome ∧
    ∃ left right,
      threeFlat.joinFirstTwo (.variant a) (.variant b) (.variant c) = some (.variant a, left) ∧
      threeFlat.joinLastTwo (.variant a) (.variant b) (.variant c) = some (.variant a, right) ∧
      left.Alike (.variant a) right (.variant a) := by
  intro a b c
  have insideA : a.index < threeFlat.variants.size := by decide
  have insideB : b.index < threeFlat.variants.size := by decide
  have flat : threeFlat.isFlat a = true ∧ threeFlat.isFlat b = true ∧
      threeFlat.isFlat c = true := by decide +kernel
  have first : threeFlat.Undisturbed a b c := undisturbed_of_isFlat flat.1 flat.2.1 flat.2.2
  have last : threeFlat.Undisturbed b c a := undisturbed_of_isFlat flat.2.1 flat.2.2 flat.1
  obtain ⟨both, results⟩ := joins_regroup (c := c) insideA insideB
  have joins : (threeFlat.joinFirstTwo (.variant a) (.variant b) (.variant c)).isSome = true := by
    decide +kernel
  obtain ⟨⟨ty, left⟩, joined⟩ := Option.isSome_iff_exists.mp joins
  obtain ⟨⟨ty', right⟩, joined'⟩ :=
    Option.isSome_iff_exists.mp ((both first last).symm.trans joins)
  obtain ⟨rfl, rfl, -, alike⟩ := results ty ty' left right joined joined'
  refine ⟨⟨insideA, insideB⟩, ⟨first, last⟩, both first last, left, right, joined, joined', ?_⟩
  obtain ⟨-, -, rfl⟩ := joinFirstTwo_eq_some.mp joined
  exact alike.mpr (.inr (.inr (not_leadsTo_of_isFlat (by decide +kernel) (by decide))))

/-- A variant that leads to a second one, and a third one. -/
def knotted (tag : String) : Heap where
  objects := .empty
  variants := ⟨#[.ofList [("A", [.variant ⟨1⟩])], .ofList [("B", [])],
    .ofList [(tag, [.variant ⟨3⟩])], .ofList [("B", [])]]⟩

theorem knotted_leadsTo (tag : String) :
    ((knotted tag).unitedFirstTwo ⟨0⟩ ⟨1⟩ ⟨2⟩).LeadsTo [.variant ⟨0⟩] ⟨1⟩ := by
  have grown := ((knotted tag).withUnion_grows ⟨0⟩ ⟨1⟩).trans
    (((knotted tag).withUnion ⟨0⟩ ⟨1⟩).withUnion_grows ⟨0⟩ ⟨2⟩)
  exact ⟨_, List.mem_singleton_self _, [.argument "A" 0], grown.along_of_some _ rfl⟩

/-- In one such heap the groupings have results of different structure, in the other one only the
first grouping has one. -/
theorem knotted_regroup_otherwise :
    (∃ left right,
      (knotted "C").joinFirstTwo (.variant ⟨0⟩) (.variant ⟨1⟩) (.variant ⟨2⟩) =
        some (.variant ⟨0⟩, left) ∧
      (knotted "C").joinLastTwo (.variant ⟨0⟩) (.variant ⟨1⟩) (.variant ⟨2⟩) =
        some (.variant ⟨0⟩, right) ∧
      ¬left.Alike (.variant ⟨0⟩) right (.variant ⟨0⟩)) ∧
    ((knotted "A").joinFirstTwo (.variant ⟨0⟩) (.variant ⟨1⟩) (.variant ⟨2⟩)).isSome = true ∧
    ((knotted "A").joinLastTwo (.variant ⟨0⟩) (.variant ⟨1⟩) (.variant ⟨2⟩)).isSome = false := by
  refine ⟨?_, by decide +kernel, by decide +kernel⟩
  have joins : ((knotted "C").joinFirstTwo (.variant ⟨0⟩) (.variant ⟨1⟩)
      (.variant ⟨2⟩)).isSome = true := by decide +kernel
  have joins' : ((knotted "C").joinLastTwo (.variant ⟨0⟩) (.variant ⟨1⟩)
      (.variant ⟨2⟩)).isSome = true := by decide +kernel
  obtain ⟨⟨ty, left⟩, joined⟩ := Option.isSome_iff_exists.mp joins
  obtain ⟨⟨ty', right⟩, joined'⟩ := Option.isSome_iff_exists.mp joins'
  obtain ⟨-, rfl, rfl⟩ := joinFirstTwo_eq_some.mp joined
  obtain ⟨-, rfl, rfl⟩ := joinLastTwo_eq_some.mp joined'
  refine ⟨_, _, joined, joined', fun alike => ?_⟩
  rcases (alike_regrouped (by decide) (by decide)).mp alike with same | covered | apart
  · cases same
  · exact covered ⟨"C", by decide +kernel, by decide +kernel⟩
  · exact apart (knotted_leadsTo "C")

end Heap

end CallTyping
