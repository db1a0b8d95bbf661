/-
This file proves when a join that succeeded can be repeated. The first join grows the
left variant in place, and everything that leads to this variant grows with it. When
the two sides are compared once more, arguments under a tag that both had from the
start may have come apart: a path that leads to the left variant from the arguments
of one side, and to another variant from those of the other side, now ends at
different tags. Where no path does so nothing has come apart, and the repeated join
finds nothing to add. This carries over to updates that are made twice.
-/

import CallTyping.Proofs.Regrouping

namespace CallTyping

namespace Heap

/-! ### Paths to the variant that grew -/

/-- Every path leads to the variant from both types or from none of them. -/
def LeadAlike (heap : Heap) (id : VariantId) (left right : Ty) : Prop :=
  ∀ path, heap.along path left = some (.variant id) ↔ heap.along path right = some (.variant id)

/-- If the right type is a variant with a tag that the left variant lacks, then the arguments under
each tag that both have lead alike to the left variant. -/
def Repeatable (heap : Heap) (left right : Ty) : Prop :=
  ∀ first second, left = .variant first → right = .variant second → heap.Adds first second →
    ∀ tag args others, heap.tag? first tag = some args → heap.tag? second tag = some others →
      List.Forall₂ (heap.LeadAlike first) args others

section

variable {heap : Heap} {first second : VariantId} {left right : Ty}

theorem LeadAlike.symm (alike : heap.LeadAlike first left right) :
    heap.LeadAlike first right left := fun path => (alike path).symm

theorem surface_withUnion_other (different : left ≠ .variant first) :
    (heap.withUnion first second).surface left = heap.surface left := by
  cases left with
  | variant id =>
    have other : id ≠ first := fun equal => different (congrArg Ty.variant equal)
    simp only [surface, tag?, tags_withUnion_other second other]
  | _ => rfl

theorem part?_withUnion_other (different : left ≠ .variant first) (turn : Turn) :
    (heap.withUnion first second).part? left turn = heap.part? left turn := by
  cases left with
  | variant id =>
    have other : id ≠ first := fun equal => different (congrArg Ty.variant equal)
    cases turn with
    | argument => simp only [part?, tag?, tags_withUnion_other second other]
    | _ => rfl
  | _ => cases turn <;> rfl

/-- Types that look the same are not both variants with different tags; so what looks like a variant
that grew has grown as well. -/
theorem eq_of_surface_withUnion (inside : first.index < heap.variants.size)
    (adds : heap.Adds first second) (before : heap.surface left = heap.surface (.variant first))
    (after : (heap.withUnion first second).surface left =
      (heap.withUnion first second).surface (.variant first)) : left = .variant first := by
  by_contra different
  rw [surface_withUnion_other different, before, surface, surface, Surface.variant.injEq] at after
  obtain ⟨tag, present, absent⟩ := adds
  have known := congrArg Option.isSome (congrFun after tag)
  rw [Option.isSome_map, Option.isSome_map, tag?, tag?, tags_withUnion_self second inside] at known
  have both := contains_union (heap.tags first) (heap.tags second) tag
  rw [present, Bool.or_true] at both
  exact Bool.false_ne_true (absent.symm.trans (known.trans both))

/-- Of two types that no path sets apart, the second one leads to a variant that grew wherever the
first one does, if no path sets them apart after the growth either. -/
theorem along_of_indistinct (inside : first.index < heap.variants.size)
    (adds : heap.Adds first second) (before : heap.Indistinct left right)
    (after : (heap.withUnion first second).Indistinct left right) {path : List Turn}
    (reached : heap.along path left = some (.variant first)) :
    heap.along path right = some (.variant first) := by
  have grown := heap.withUnion_grows first second
  have seen := before path
  rw [reached, Option.map_some] at seen
  obtain ⟨other, reached', looks⟩ := Option.map_eq_some_iff.mp seen.symm
  have seen' := after path
  rw [grown.along_of_some path reached, grown.along_of_some path reached', Option.map_some,
    Option.map_some, Option.some.injEq] at seen'
  rw [reached', eq_of_surface_withUnion inside adds looks seen'.symm]

/-- Types that lead alike to the variant that grows stay of the same structure. -/
theorem LeadAlike.bisimulation (heap : Heap) (first second : VariantId) :
    (heap.withUnion first second).Bisimulation
      fun left right => heap.Indistinct left right ∧ heap.LeadAlike first left right where
  surface {left right} related := by
    obtain ⟨same, alike⟩ := related
    by_cases isFirst : left = .variant first
    · have isFirst' : right = .variant first :=
        Option.some.inj ((alike []).mp (congrArg some isFirst))
      rw [isFirst, isFirst']
    · have isOther : right ≠ .variant first := fun equal =>
        isFirst (Option.some.inj ((alike []).mpr (congrArg some equal)))
      rw [surface_withUnion_other isFirst, surface_withUnion_other isOther]
      exact heap.indistinct_bisimulation.surface same
  parts {left right} related turn := by
    obtain ⟨same, alike⟩ := related
    by_cases isFirst : left = .variant first
    · have isFirst' : right = .variant first :=
        Option.some.inj ((alike []).mp (congrArg some isFirst))
      rw [isFirst, isFirst']
      cases (heap.withUnion first second).part? (.variant first) turn with
      | none => exact .none
      | some part => exact .some ⟨fun _ => rfl, fun _ => Iff.rfl⟩
    · have isOther : right ≠ .variant first := fun equal =>
        isFirst (Option.some.inj ((alike []).mpr (congrArg some equal)))
      rw [part?_withUnion_other isFirst, part?_withUnion_other isOther]
      have parts := heap.indistinct_bisimulation.parts same turn
      have further := fun path => alike (turn :: path)
      simp only [along] at further
      generalize heap.part? left turn = part, heap.part? right turn = other at parts further ⊢
      cases parts with
      | none => exact .none
      | some agree => exact .some ⟨agree, further⟩

/-- Types of the same structure still have the same one after the growth of a variant exactly if
they lead alike to it. -/
theorem indistinct_withUnion (inside : first.index < heap.variants.size)
    (adds : heap.Adds first second) (same : heap.Indistinct left right) :
    (heap.withUnion first second).Indistinct left right ↔ heap.LeadAlike first left right := by
  constructor
  · intro after path
    refine ⟨along_of_indistinct inside adds same after, along_of_indistinct inside adds ?_ ?_⟩
    · exact fun path => (same path).symm
    · exact fun path => (after path).symm
  · intro alike
    exact (LeadAlike.bisimulation heap first second).indistinct ⟨same, alike⟩

theorem forall₂_indistinct_withUnion (inside : first.index < heap.variants.size)
    (adds : heap.Adds first second) {args others : List Ty}
    (same : List.Forall₂ heap.Indistinct args others) :
    List.Forall₂ (heap.withUnion first second).Indistinct args others ↔
      List.Forall₂ (heap.LeadAlike first) args others := by
  induction same with
  | nil => exact iff_of_true .nil .nil
  | cons head _ inductionHypothesis =>
    rw [List.forall₂_cons, List.forall₂_cons, indistinct_withUnion inside adds head,
      inductionHypothesis]

/-! ### Joins that are repeated -/

theorem repeatable_of_not_adds (covered : ¬heap.Adds first second) :
    heap.Repeatable (.variant first) (.variant second) := by
  rintro _ _ ⟨⟩ ⟨⟩ adds
  exact absurd adds covered

/-- After two variants were joined they are compatible again exactly if the join is repeatable. -/
theorem compatible_again (compatible : heap.Compatible first second) :
    (heap.withUnion first second).Compatible first second ↔
      heap.Repeatable (.variant first) (.variant second) := by
  by_cases adds : heap.Adds first second
  case neg =>
    rw [withUnion_of_covered (not_adds.mp adds)]
    exact iff_of_true compatible (repeatable_of_not_adds adds)
  by_cases inside : first.index < heap.variants.size
  case neg =>
    -- A handle that was never given out has no tags, and none can be added to it.
    have outside : heap.tags first = .empty := by
      rw [tags, Arena.get?_outside _ _ (Nat.le_of_not_lt inside)]
      rfl
    have same : heap.withUnion first second = heap := by
      rw [withUnion, setTags, Arena.set_outside _ _ _ (Nat.le_of_not_lt inside)]
    refine iff_of_true (same.symm ▸ compatible) ?_
    rintro _ _ ⟨⟩ ⟨⟩ - tag args others held
    rw [tag?, outside] at held
    cases held
  have different : second ≠ first := by
    rintro rfl
    obtain ⟨tag, present, absent⟩ := adds
    exact Bool.false_ne_true (absent.symm.trans present)
  have unchanged (tag : String) :
      (heap.withUnion first second).tag? second tag = heap.tag? second tag :=
    congrArg (OrderedMap.get? · tag) (tags_withUnion_other second different)
  constructor
  · rintro again _ _ ⟨⟩ ⟨⟩ - tag args others held held'
    refine (forall₂_indistinct_withUnion inside adds (compatible tag args others held held')).mp
      (again tag args others ?_ ?_)
    · rw [tag?_withUnion_self inside, held, Option.some_or]
    · rw [unchanged, held']
  · intro repeatable tag args others held held'
    rw [unchanged] at held'
    rw [tag?_withUnion_self inside] at held
    rcases Option.or_eq_some_iff.mp held with known | ⟨-, known⟩
    · exact (forall₂_indistinct_withUnion inside adds (compatible tag args others known held')).mpr
        (repeatable first second rfl rfl adds tag args others known held')
    · cases known.symm.trans held'
      exact List.forall₂_same.mpr fun _ _ _ => rfl

/-- What was taken over is not taken over once more. -/
theorem withUnion_again (heap : Heap) (first second : VariantId) :
    (heap.withUnion first second).withUnion first second = heap.withUnion first second := by
  by_cases inside : first.index < heap.variants.size
  · refine withUnion_of_covered fun tag present => ?_
    by_cases different : second = first
    · exact different ▸ present
    · rw [tags_withUnion_other second different] at present
      rw [tags_withUnion_self second inside, contains_union, present, Bool.or_true]
  · simp only [withUnion, setTags, Arena.set_outside _ _ _ (Nat.le_of_not_lt inside)]

theorem join_again {ty : Ty} {grown : Heap} (joined : heap.join left right = some (ty, grown)) :
    (heap.Repeatable left right → grown.join left right = some (left, grown)) ∧
      (¬heap.Repeatable left right → grown.join left right = none) := by
  by_cases both : ∃ first second, left = .variant first ∧ right = .variant second
  · obtain ⟨first, second, rfl, rfl⟩ := both
    obtain ⟨compatible, -, rfl⟩ := join_variants_eq_some.mp joined
    rw [← compatible_again compatible]
    refine ⟨fun again => ?_, join_of_not_compatible⟩
    rw [join_of_compatible again, withUnion_again]
  · have repeatable : heap.Repeatable left right := fun first second isFirst isSecond =>
      absurd ⟨first, second, isFirst, isSecond⟩ both
    refine ⟨fun _ => ?_, fun conflict => absurd repeatable conflict⟩
    obtain ⟨rfl, rfl | ⟨first, second, isFirst, isSecond, -⟩⟩ := join_cases joined
    · exact joined
    · exact absurd ⟨first, second, isFirst, isSecond⟩ both

end

end Heap

/-! ### Updates that are repeated -/

/-- A step that is taken once more right after itself: it answers the same and changes nothing,
or it stops for this reason and changes nothing. -/
structure Repeats (step : Check Ty) (checker : Checker) (repeatable : Prop) (stop : Stop) :
    Prop where
  again : repeatable → step.outcome (step.outcome checker).2 = step.outcome checker
  stops : ¬repeatable →
    step.outcome (step.outcome checker).2 = (.error stop, (step.outcome checker).2)

/-- Why an update stops whose value cannot be joined to what is there. -/
def Checker.updateStop (checker : Checker) (valueSpan : Span) (old new : Ty) : Stop :=
  .fault ⟨checker.file, valueSpan, .mismatchedTypes old new updateReason⟩

section

variable {checker : Checker} {old new ty : Ty} {grown : Heap}

/-- A step that is only a join, also in the state that the join leaves, repeats as joins do. -/
theorem repeats_of_join {step : Check Ty} {valueSpan : Span}
    (joined : checker.heap.join old new = some (ty, grown))
    (first : step.outcome checker =
      (joinTypes updateReason valueSpan old new).outcome checker)
    (second : step.outcome { checker with heap := grown } =
      (joinTypes updateReason valueSpan old new).outcome { checker with heap := grown }) :
    step.outcome checker = (.ok old, { checker with heap := grown }) ∧
      Repeats step checker (checker.heap.Repeatable old new)
        (checker.updateStop valueSpan old new) := by
  have done := first.trans (Check.outcome_joinTypes_some joined updateReason valueSpan)
  obtain ⟨again, stops⟩ := Heap.join_again joined
  generalize isAfter : { checker with heap := grown } = after at done second ⊢
  have heap : after.heap = grown := by rw [← isAfter]
  have file : after.file = checker.file := by rw [← isAfter]
  rw [← heap] at again stops
  refine ⟨done, fun repeatable => ?_, fun conflict => ?_⟩
  · rw [done, second, Check.outcome_joinTypes_some (again repeatable) updateReason valueSpan]
  · rw [done, second, Check.outcome_joinTypes_none (stops conflict) updateReason valueSpan, file]
    rfl

theorem outcome_updateVariable_known {name : String} (known : checker.lookup name = some old)
    (span valueSpan : Span) (new : Ty) :
    (updateVariable span valueSpan name new).outcome checker =
      (joinTypes updateReason valueSpan old new).outcome checker := by
  have found : (typeOfName span name).outcome checker = (.ok old, checker) := by
    rw [typeOfName, Check.outcome_bind, Check.outcome_get]
    dsimp only
    rw [known]
    rfl
  rw [Check.outcome_updateVariable, Check.outcome_bind_ok found]

theorem outcome_updateField_known {object : ObjectId} {field : String}
    (known : checker.heap.field? object field = some old) (objectSpan valueSpan : Span) (new : Ty) :
    (updateField objectSpan valueSpan (.object object) field new).outcome checker =
      (joinTypes updateReason valueSpan old new).outcome checker := by
  rw [Check.outcome_updateField]
  simp only [expectObject, pure_bind, known]

theorem outcome_updateField_new {object : ObjectId} {field : String}
    (absent : checker.heap.field? object field = none) (objectSpan valueSpan : Span) (new : Ty) :
    (updateField objectSpan valueSpan (.object object) field new).outcome checker =
      (.ok new, { checker with heap := checker.heap.setField object field new }) := by
  rw [Check.outcome_updateField]
  simp only [expectObject, pure_bind, absent, Check.outcome_bind, Check.outcome_modify,
    Check.outcome_pure]

/-- A field that an update has added has the type of the value already when it is made again. -/
theorem updateField_new_again {object : ObjectId} {field : String}
    (absent : checker.heap.field? object field = none) (objectSpan valueSpan : Span) (new : Ty) :
    let step := updateField objectSpan valueSpan (.object object) field new
    step.outcome (step.outcome checker).2 = step.outcome checker := by
  intro step
  by_cases inside : object.index < checker.heap.objects.size
  case neg =>
    -- Nothing is written behind a handle that was never given out.
    have unchanged : checker.heap.setField object field new = checker.heap := by
      rw [Heap.setField, Arena.set_outside _ _ _ (Nat.le_of_not_lt inside)]
    have done : step.outcome checker = (.ok new, checker) := by
      rw [outcome_updateField_new absent objectSpan valueSpan new, unchanged]
    rw [done, done]
  have done := outcome_updateField_new absent objectSpan valueSpan new
  have known : (checker.heap.setField object field new).field? object field = some new := by
    rw [Heap.field?, Heap.fields_setField_self _ _ _ _ inside, OrderedMap.get?_insert_self]
  generalize isAfter : checker.heap.setField object field new = grown at done known
  generalize isNext : { checker with heap := grown } = after at done
  have heap : after.heap = grown := by rw [← isNext]
  have joined : after.heap.join new new = some (new, after.heap) := by
    unfold Heap.join
    rw [if_pos (Heap.same_self _ _)]
  rw [← heap] at known
  rw [done, outcome_updateField_known known objectSpan valueSpan new,
    Check.outcome_joinTypes_some joined updateReason valueSpan]

/-- A join that succeeded answers with the left type. If the arguments under the tags that both
sides had lead alike to the left variant, or the right one had nothing to add, then the join can be
repeated: it answers the same and changes nothing. Otherwise it fails. An update of a variable or of
a field by a value that joins what is there repeats as the join does, and one that adds a field can
always be repeated. -/
theorem joins_repeat (heap : Heap) {left right ty : Ty} {grown : Heap}
    (joined : heap.join left right = some (ty, grown)) :
    (ty = left ∧ (heap.Repeatable left right → grown.join left right = some (left, grown)) ∧
      (¬heap.Repeatable left right → grown.join left right = none)) ∧
    ∀ (checker : Checker) (span valueSpan : Span), checker.heap = heap →
      (∀ name, checker.lookup name = some left →
        let step := updateVariable span valueSpan name right
        step.outcome checker = (.ok left, { checker with heap := grown }) ∧
          Repeats step checker (heap.Repeatable left right)
            (checker.updateStop valueSpan left right)) ∧
      ∀ object field,
        let step := updateField span valueSpan (.object object) field right
        (heap.field? object field = some left →
          step.outcome checker = (.ok left, { checker with heap := grown }) ∧
            Repeats step checker (heap.Repeatable left right)
              (checker.updateStop valueSpan left right)) ∧
        (heap.field? object field = none →
          step.outcome (step.outcome checker).2 = step.outcome checker) := by
  refine ⟨⟨(Heap.join_cases joined).1, Heap.join_again joined⟩, ?_⟩
  rintro checker span valueSpan rfl
  refine ⟨fun name known => ?_, fun object field => ⟨fun known => ?_, fun absent => ?_⟩⟩
  · have kept : ({ checker with heap := grown } : Checker).lookup name = some left := known
    exact repeats_of_join joined (outcome_updateVariable_known known span valueSpan right)
      (outcome_updateVariable_known kept span valueSpan right)
  · have kept : ({ checker with heap := grown } : Checker).heap.field? object field = some left :=
      (Heap.field?_join joined object field).trans known
    exact repeats_of_join joined (outcome_updateField_known known span valueSpan right)
      (outcome_updateField_known kept span valueSpan right)
  · exact updateField_new_again absent span valueSpan right

end

/-- Two variants that contain the first one under a common tag; the second has one tag more. -/
def selfContaining : Heap where
  objects := .empty
  variants := ⟨#[.ofList [("A", [.variant ⟨0⟩])], .ofList [("A", [.variant ⟨0⟩]), ("B", [])]]⟩

/-- The second one is joined to the first, which grows, and once more to no effect; so it is if the
first is the type of a variable, which is updated twice. -/
theorem selfContaining_joins_repeat :
    let left := Ty.variant ⟨0⟩
    let right := Ty.variant ⟨1⟩
    let checker : Checker :=
      { Checker.initial with
        heap := selfContaining, bindings := Bindings.empty.bind "x" ⟨left, .origin⟩ }
    let step := updateVariable .origin .origin "x" right
    ∃ grown, selfContaining.join left right = some (left, grown) ∧
      (grown.tags ⟨0⟩).keys = ["A", "B"] ∧
      selfContaining.Repeatable left right ∧
      grown.join left right = some (left, grown) ∧
      step.outcome checker = (.ok left, { checker with heap := grown }) ∧
      step.outcome (step.outcome checker).2 = step.outcome checker := by
  intro left right checker step
  have joins : (selfContaining.join left right).any (fun joined =>
      (joined.2.tags ⟨0⟩).keys = ["A", "B"]) = true := by decide +kernel
  obtain ⟨⟨ty, grown⟩, joined, keys⟩ := (Option.any_eq_true _ _).mp joins
  have repeatable : selfContaining.Repeatable left right := by
    intro first second isFirst isSecond _ tag args others held held'
    cases Ty.variant.inj isFirst
    cases Ty.variant.inj isSecond
    have known : (tag, args) ∈ [("A", [left])] := (OrderedMap.mem_entries_iff _ _ _).mpr held
    have incoming : (tag, others) ∈ [("A", [left]), ("B", [])] :=
      (OrderedMap.mem_entries_iff _ _ _).mpr held'
    simp only [List.mem_cons, Prod.mk.injEq, List.not_mem_nil, or_false] at known incoming
    obtain ⟨rfl, rfl⟩ := known
    obtain ⟨-, rfl⟩ := incoming.resolve_right fun other => absurd other.1 (by decide)
    exact List.forall₂_same.mpr fun _ _ _ => Iff.rfl
  obtain ⟨⟨rfl, again, -⟩, updates⟩ := joins_repeat selfContaining joined
  obtain ⟨done, repeats⟩ := (updates checker .origin .origin rfl).1 "x" rfl
  exact ⟨grown, joined, of_decide_eq_true keys, repeatable, again repeatable, done,
    repeats.again repeatable⟩

/-- Two variants that contain themselves under a common tag, and a third one that contains the
second under this tag and has one tag more. -/
def tied : Heap where
  objects := .empty
  variants := ⟨#[.ofList [("A", [.variant ⟨0⟩])], .ofList [("A", [.variant ⟨1⟩])],
    .ofList [("A", [.variant ⟨1⟩]), ("B", [])]]⟩

/-- Such variants are made by way of objects, and the first is updated by the third repeatedly. -/
def tiedUpdates (times : Nat) : Program :=
  containing "o" "v" ++ containing "p" "w" ++
    [define "r" (tagged "A" [name "p"]), update (name "r") (tagged "B" [])] ++
    List.replicate times (update (name "v") (name "r"))
where
  name (text : String) : Node := .untyped .origin (.ident text)
  define (text : String) (value : Node) : Node := .untyped .origin (.define text value)
  update (target value : Node) : Node := .untyped .origin (.update target value)
  tagged (tag : String) (args : List Node) : Node := .untyped .origin (.variant tag args)
  containing (object holder : String) : Program :=
    [define object (.untyped .origin (.object [])), define holder (tagged "A" [name object]),
     update (.untyped .origin (.dot (name object) "x")) (name holder)]

/-- The third one is joined to the first, which grows, but cannot be joined to it once more: the
first now contains a variant with two tags, and the third still one with a single tag. A program
that makes such an update passes, and one that makes it twice fails. -/
theorem tied_join_fails_again :
    (tied.join (.variant ⟨0⟩) (.variant ⟨2⟩)).any (fun joined =>
      (joined.2.join (.variant ⟨0⟩) (.variant ⟨2⟩)).isNone) = true ∧
    (checkAlone "main.brie" (tiedUpdates 1)).1.2.isOk = true ∧
    (checkAlone "main.brie" (tiedUpdates 2)).1.2.isOk = false := by
  refine ⟨?_, ?_, ?_⟩ <;> decide +kernel

end CallTyping
