/-
This file proves that the text of a type shows its first levels and nothing below them.
A type may contain itself and have no last level. But the level is handed on wherever
the text of a part is asked for, and what stands too deep is not looked at, so on every
heap the requests are nested no deeper than the levels that are written out. What is
written can be read off the unfolding that is cut there. Of the parts that are cut off
it only matters where they are, and nothing that can be reached through them alone.
-/

import CallTyping.Heap.Text
import CallTyping.Proofs.Unfolding
import Mathlib.Data.Prod.Basic

namespace CallTyping

/-! ### Lists and maps with the same images -/

/-- Lists have the same images exactly if they have them at every position. -/
theorem map_eq_map_iff_positions {α β γ : Type} {image : α → γ} {image' : β → γ}
    {lefts : List α} {rights : List β} :
    lefts.map image = rights.map image' ↔
      ∀ position : Nat, lefts[position]?.map image = rights[position]?.map image' := by
  simp only [List.ext_getElem?_iff, List.getElem?_map]

namespace OrderedMap

variable {α β γ : Type} {image : α → γ} {image' : β → γ}

theorem find_map (image : α → γ) (name : String) (entries : List (String × α)) :
    find name (entries.map fun entry => (entry.1, image entry.2)) =
      (find name entries).map image := by
  induction entries with
  | nil => rfl
  | cons entry rest inductionHypothesis =>
    rw [List.map_cons, find, find, inductionHypothesis]
    split <;> rfl

/-- The images of the entries are those of what a lookup finds, name by name. -/
theorem map_entries_eq (map : OrderedMap String α) (image : α → γ) :
    map.entries.map (fun entry => (entry.1, some (image entry.2))) =
      map.keys.map fun name => (name, (map.get? name).map image) := by
  rw [keys, List.map_map]
  refine List.map_congr_left fun entry member => ?_
  rw [Function.comp_apply, (map.mem_entries_iff entry.1 entry.2).mp member, Option.map_some]

/-- Maps have the same images exactly if they have the same names in the same order, and the same
image under each of them. -/
theorem map_eq_map_iff {left : OrderedMap String α} {right : OrderedMap String β} :
    left.entries.map (fun entry => (entry.1, image entry.2)) =
        right.entries.map (fun entry => (entry.1, image' entry.2)) ↔
      left.keys = right.keys ∧
        ∀ name, (left.get? name).map image = (right.get? name).map image' := by
  constructor
  · intro same
    refine ⟨?_, fun name => ?_⟩
    · have firsts := congrArg (List.map Prod.fst) same
      rwa [List.map_map, List.map_map] at firsts
    · have found := congrArg (find name) same
      rwa [find_map, find_map] at found
  · rintro ⟨keys, parts⟩
    -- With each image marked as present, both lists say what is found under the names in order.
    have injective : Function.Injective (Prod.map id some : String × γ → String × Option γ) :=
      Function.injective_id.prodMap fun _ _ => Option.some.inj
    refine List.map_injective_iff.mpr injective ?_
    rw [List.map_map, List.map_map]
    refine (left.map_entries_eq image).trans (Eq.trans ?_ (right.map_entries_eq image').symm)
    rw [keys]
    exact List.map_congr_left fun name _ => congrArg (Prod.mk name) (parts name)

end OrderedMap

/-! ### The text of an unfolding -/

namespace Unfolding

mutual

/-- The text of an unfolding; what is cut off has the same text everywhere. -/
def text : Unfolding → String
  | .cut => ".."
  | .plain kind => kind.name
  | .object fields => "\x7b" ++ Heap.separated ", " (fieldTexts fields) ++ "\x7d"
  | .function closure arity bound =>
    "fn" ++ closure.text ++ "(" ++
      Heap.separated ", " (texts bound ++ List.replicate (arity - bound.length) "_") ++ ")"
  | .variant tags => Heap.separated " | " (tagTexts tags)

def texts : List Unfolding → List String
  | [] => []
  | part :: rest => part.text :: texts rest

def fieldTexts : List (String × Unfolding) → List String
  | [] => []
  | (name, field) :: rest => (name ++ ": " ++ field.text) :: fieldTexts rest

def tagTexts : List (String × List Unfolding) → List String
  | [] => []
  | (tag, arguments) :: rest => Heap.tagText tag (texts arguments) :: tagTexts rest

end

theorem texts_eq_map (parts : List Unfolding) : texts parts = parts.map text := by
  induction parts with
  | nil => rfl
  | cons part rest inductionHypothesis => rw [texts, inductionHypothesis, List.map_cons]

theorem fieldTexts_eq_map (fields : List (String × Unfolding)) :
    fieldTexts fields = fields.map fun field => field.1 ++ ": " ++ field.2.text := by
  induction fields with
  | nil => rfl
  | cons field rest inductionHypothesis => rw [fieldTexts, inductionHypothesis, List.map_cons]

theorem tagTexts_eq_map (tags : List (String × List Unfolding)) :
    tagTexts tags = tags.map fun tag => Heap.tagText tag.1 (tag.2.map text) := by
  induction tags with
  | nil => rfl
  | cons tag rest inductionHypothesis =>
    rw [tagTexts, inductionHypothesis, List.map_cons, texts_eq_map]

end Unfolding

namespace Heap

/-- The text of a type is that of its unfolding, if both are cut after as many levels. -/
theorem text_unfolding (heap : Heap) (levels : Nat) (ty : Ty) :
    (heap.unfolding levels ty).text = heap.textWithin levels ty := by
  induction levels generalizing ty with
  | zero => rfl
  | succ levels inductionHypothesis =>
    have inner : Unfolding.text ∘ heap.unfolding levels = heap.textWithin levels :=
      funext inductionHypothesis
    cases ty with
    | object id =>
      rw [unfolding, Unfolding.text, Unfolding.fieldTexts_eq_map, List.map_map, textWithin]
      simp only [Function.comp_def, inductionHypothesis]
    | function closure arity bound =>
      rw [unfolding, Unfolding.text, Unfolding.texts_eq_map, List.map_map, inner, List.length_map]
      rfl
    | variant id =>
      rw [unfolding, Unfolding.text, Unfolding.tagTexts_eq_map, List.map_map, textWithin]
      simp only [Function.comp_def, List.map_map, inductionHypothesis]
    | unit | bool | integer | float | string => rfl

/-! ### Writing with the level handed on -/

/-- What is written for a type that stands at a level, the outermost one standing at level zero. The
parts are left to `inner`, with the level at which they stand, and without the text of each of them
there is none. -/
def write (heap : Heap) (inner : Nat → Ty → Option String) (level : Nat) (ty : Ty) :
    Option String :=
  if deepestLevel < level then some ".."
  else
    match ty with
    | .object id => do
      let fields ← (heap.fields id).entries.mapM fun (name, field) => do
        return name ++ ": " ++ (← inner (level + 1) field)
      return "\x7b" ++ separated ", " fields ++ "\x7d"
    | .function closure arity bound => do
      let arguments ← bound.mapM (inner (level + 1))
      return "fn" ++ closure.text ++ "(" ++
        separated ", " (arguments ++ List.replicate (Ty.remaining arity bound) "_") ++ ")"
    | .variant id => do
      let tags ← (heap.tags id).entries.mapM fun (tag, arguments) => do
        return tagText tag (← arguments.mapM (inner (level + 1)))
      return separated " | " tags
    | _ => some ty.kind.name

/-- If the parts get the text that they have within the levels that are left, so does the type. -/
theorem write_eq {heap : Heap} {inner : Nat → Ty → Option String} {level left : Nat}
    (levels : level + left = deepestLevel)
    (parts : ∀ ty, inner (level + 1) ty = some (heap.textWithin left ty)) (ty : Ty) :
    heap.write inner level ty = some (heap.textWithin (left + 1) ty) := by
  have notCut : ¬deepestLevel < level := by omega
  have texts : inner (level + 1) = fun ty => pure (heap.textWithin left ty) := funext parts
  unfold write
  rw [if_neg notCut]
  cases ty with
  | object | function | variant =>
    simp only [texts, pure_bind, List.mapM_pure]
    rfl
  | unit | bool | integer | float | string => rfl

/-- What is beyond so many nested requests is never asked for. There is a request for every level
that is left, and the one after these is for what is cut off. -/
theorem write_iterate {heap : Heap} (beyond : Nat → Ty → Option String) {level left more : Nat}
    (levels : level + left = deepestLevel + 1) (ty : Ty) :
    (heap.write^[left + 1 + more] beyond) level ty = some (heap.textWithin left ty) := by
  rw [Nat.add_right_comm, Function.iterate_succ_apply']
  induction left generalizing level ty with
  | zero => exact if_pos (Nat.lt_of_succ_le (Nat.le_of_eq levels.symm))
  | succ left inductionHypothesis =>
    refine write_eq (by omega) (fun part => ?_) ty
    rw [Nat.add_right_comm, Function.iterate_succ_apply']
    exact inductionHypothesis (by omega) part

/-! ### The same nodes down to a level -/

/-- What can be seen of a type in its place, with fields and tags in their order. -/
inductive Label where
  | plain (kind : Kind)
  | object (names : List String)
  | function (closure : ClosureId) (arity : Nat)
  | variant (tags : List String)

def label (heap : Heap) : Ty → Label
  | .object id => .object (heap.fields id).keys
  | .function closure arity _ => .function closure arity
  | .variant id => .variant (heap.tags id).keys
  | ty => .plain ty.kind

/-- The unfoldings of two types agree on so many levels, and on the next level they have nodes in
the same places. -/
structure AgreeWithin (heap : Heap) (levels : Nat) (left : Ty) (other : Heap) (right : Ty) :
    Prop where
  labels : ∀ path, path.length < levels →
    (heap.along path left).map heap.label = (other.along path right).map other.label
  places : ∀ path, path.length = levels →
    (heap.along path left).isSome = (other.along path right).isSome

variable {heap other : Heap} {levels : Nat} {left right : Ty}

theorem agreeWithin_zero : heap.AgreeWithin 0 left other right where
  labels _ short := absurd short (Nat.not_lt_zero _)
  places path ends := by
    rw [List.length_eq_zero_iff.mp ends]
    rfl

theorem AgreeWithin.isSome (agree : heap.AgreeWithin levels left other right) (path : List Turn)
    (within : path.length ≤ levels) :
    (heap.along path left).isSome = (other.along path right).isSome := by
  rcases Nat.lt_or_eq_of_le within with short | ends
  · simpa only [Option.isSome_map] using congrArg Option.isSome (agree.labels path short)
  · exact agree.places path ends

/-- The parts of types that agree on one more level agree. -/
theorem AgreeWithin.part? (agree : heap.AgreeWithin (levels + 1) left other right) (turn : Turn) :
    Option.Rel (heap.AgreeWithin levels · other ·) (heap.part? left turn)
      (other.part? right turn) := by
  have both := agree.isSome [turn] (Nat.succ_le_succ (Nat.zero_le _))
  have labels := fun path short => agree.labels (turn :: path) (Nat.succ_lt_succ short)
  have places := fun path ends => agree.places (turn :: path) (congrArg Nat.succ ends)
  simp only [along] at both labels places
  generalize heap.part? left turn = part, other.part? right turn = found at both labels places ⊢
  refine rel_of_isSome (by simpa using both) ?_
  rintro part rfl found rfl
  exact ⟨labels, places⟩

/-- A path whose first turn leads to related parts ends on neither side, or goes on from them. -/
theorem along_cons {related : Ty → Ty → Prop} {turn : Turn}
    (parts : Option.Rel related (heap.part? left turn) (other.part? right turn))
    (rest : List Turn) :
    heap.along (turn :: rest) left = none ∧ other.along (turn :: rest) right = none ∨
      ∃ part found, related part found ∧ heap.along (turn :: rest) left = heap.along rest part ∧
        other.along (turn :: rest) right = other.along rest found := by
  rw [along, along]
  generalize heap.part? left turn = part, other.part? right turn = found at parts
  cases parts with
  | none => exact .inl ⟨rfl, rfl⟩
  | some holds => exact .inr ⟨_, _, holds, rfl, rfl⟩

/-- Types agree on one more level exactly if they look the same and their parts agree. -/
theorem agreeWithin_succ_iff :
    heap.AgreeWithin (levels + 1) left other right ↔
      heap.label left = other.label right ∧
        ∀ turn, Option.Rel (heap.AgreeWithin levels · other ·) (heap.part? left turn)
          (other.part? right turn) := by
  refine ⟨fun agree => ⟨Option.some.inj (agree.labels [] (Nat.succ_pos _)), agree.part?⟩, ?_⟩
  rintro ⟨look, parts⟩
  refine ⟨fun path short => ?_, fun path ends => ?_⟩
  · cases path with
    | nil => exact congrArg some look
    | cons turn rest =>
      rcases along_cons (parts turn) rest with ⟨none, none'⟩ | ⟨part, found, agree, on, on'⟩
      · rw [none, none']
        rfl
      · rw [on, on']
        exact agree.labels rest (Nat.lt_of_succ_lt_succ short)
  · cases path with
    | nil => cases ends
    | cons turn rest =>
      rcases along_cons (parts turn) rest with ⟨none, none'⟩ | ⟨part, found, agree, on, on'⟩
      · rw [none, none']
      · rw [on, on']
        exact agree.places rest (Nat.succ.inj ends)

theorem paired_of_label (same : heap.label left = other.label right) : Ty.Paired left right := by
  cases left <;> cases right <;> first | constructor | cases same

theorem paired_of_unfolding
    (same : heap.unfolding (levels + 1) left = other.unfolding (levels + 1) right) :
    Ty.Paired left right := by
  cases left <;> cases right <;> first | constructor | cases same

section

variable {γ : Type} {image image' : Ty → γ}

theorem objects_parts_iff {one found : ObjectId} :
    (∀ turn, (heap.part? (.object one) turn).map image =
        (other.part? (.object found) turn).map image') ↔
      ∀ name, ((heap.fields one).get? name).map image =
        ((other.fields found).get? name).map image' :=
  ⟨fun parts name => parts (.field name), fun parts turn => by
    cases turn with
    | field name => exact parts name
    | _ => rfl⟩

theorem functions_parts_iff {closure otherClosure : ClosureId} {arity otherArity : Nat}
    {bound otherBound : List Ty} :
    (∀ turn, (heap.part? (.function closure arity bound) turn).map image =
        (other.part? (.function otherClosure otherArity otherBound) turn).map image') ↔
      bound.map image = otherBound.map image' := by
  rw [map_eq_map_iff_positions]
  exact ⟨fun parts position => parts (.bound position), fun parts turn => by
    cases turn with
    | bound position => exact parts position
    | _ => rfl⟩

theorem arguments_parts_iff {one found : VariantId} {tag : String}
    (known : (heap.tags one).contains tag = (other.tags found).contains tag) :
    (∀ position, (heap.part? (.variant one) (.argument tag position)).map image =
        (other.part? (.variant found) (.argument tag position)).map image') ↔
      ((heap.tags one).get? tag).map (List.map image) =
        ((other.tags found).get? tag).map (List.map image') := by
  rw [OrderedMap.contains, OrderedMap.contains] at known
  simp only [part?, tag?]
  generalize (heap.tags one).get? tag = args, (other.tags found).get? tag = args' at known ⊢
  cases args with
  | none =>
    cases args' with
    | none => exact iff_of_true (fun _ => rfl) rfl
    | some => cases known
  | some =>
    cases args' with
    | none => cases known
    | some =>
      simp only [Option.bind_some, Option.map_some, Option.some.injEq, map_eq_map_iff_positions]

theorem variants_parts_iff {one found : VariantId}
    (keys : (heap.tags one).keys = (other.tags found).keys) :
    (∀ turn, (heap.part? (.variant one) turn).map image =
        (other.part? (.variant found) turn).map image') ↔
      ∀ tag, ((heap.tags one).get? tag).map (List.map image) =
        ((other.tags found).get? tag).map (List.map image') := by
  simp only [← arguments_parts_iff (OrderedMap.contains_congr keys _)]
  exact ⟨fun parts tag position => parts (.argument tag position), fun parts turn => by
    cases turn with
    | argument tag position => exact parts tag position
    | _ => rfl⟩

end

/-- Types have the same unfolding to one more level exactly if they look the same and their parts
have the same unfoldings. -/
theorem unfolding_succ_eq_iff :
    heap.unfolding (levels + 1) left = other.unfolding (levels + 1) right ↔
      heap.label left = other.label right ∧
        ∀ turn, (heap.part? left turn).map (heap.unfolding levels) =
          (other.part? right turn).map (other.unfolding levels) := by
  by_cases paired : Ty.Paired left right
  · cases paired with
    | objects =>
      simp only [objects_parts_iff, unfolding, label, Unfolding.object.injEq, Label.object.injEq]
      exact OrderedMap.map_eq_map_iff
    | functions =>
      simp only [functions_parts_iff, unfolding, label, Unfolding.function.injEq,
        Label.function.injEq, and_assoc]
    | variants =>
      simp only [unfolding, label, Unfolding.variant.injEq, Label.variant.injEq]
      exact OrderedMap.map_eq_map_iff.trans
        (and_congr_right fun keys => (variants_parts_iff keys).symm)
    | _ => exact iff_of_true rfl ⟨rfl, fun turn => by cases turn <;> rfl⟩
  · exact iff_of_false (fun same => paired (paired_of_unfolding same))
      fun same => paired (paired_of_label same.1)

/-- The unfoldings of two types that are cut after so many levels are the same exactly if the types
agree on these levels and have nodes in the same places below. -/
theorem unfolding_eq_iff :
    heap.unfolding levels left = other.unfolding levels right ↔
      heap.AgreeWithin levels left other right := by
  induction levels generalizing left right with
  | zero => exact iff_of_true rfl agreeWithin_zero
  | succ levels inductionHypothesis =>
    simp only [unfolding_succ_eq_iff, agreeWithin_succ_iff, map_eq_map_iff, inductionHypothesis]

/-! ### Changes below a level -/

/-- A heap that is changed only below a level of a type. Down to this level each node looks as it
did, with parts in the same places. These are the same parts unless they stand below the level. -/
structure ChangedBelow (heap changed : Heap) (level : Nat) (ty : Ty) : Prop where
  looks : ∀ path, path.length ≤ level → ∀ found ∈ heap.along path ty,
    changed.unfolding 1 found = heap.unfolding 1 found
  parts : ∀ path, path.length < level → ∀ found ∈ heap.along path ty, ∀ turn,
    changed.part? found turn = heap.part? found turn

section

variable {changed : Heap} {level : Nat} {ty : Ty}

theorem changedBelow_zero_iff :
    heap.ChangedBelow changed 0 ty ↔ changed.unfolding 1 ty = heap.unfolding 1 ty := by
  refine ⟨fun below => below.looks [] (Nat.le_refl _) ty rfl, fun look =>
    ⟨fun path short found reached => ?_, fun _ short => absurd short (Nat.not_lt_zero _)⟩⟩
  cases List.length_eq_zero_iff.mp (Nat.le_zero.mp short)
  cases reached
  exact look

/-- A change is below the next level exactly if the node and its parts are as they were and the
change is below the level for each part. -/
theorem changedBelow_succ_iff :
    heap.ChangedBelow changed (level + 1) ty ↔
      changed.unfolding 1 ty = heap.unfolding 1 ty ∧
        (∀ turn, changed.part? ty turn = heap.part? ty turn) ∧
        ∀ turn, ∀ part ∈ heap.part? ty turn, heap.ChangedBelow changed level part := by
  constructor
  · intro below
    refine ⟨below.looks [] (Nat.zero_le _) ty rfl, below.parts [] (Nat.succ_pos _) ty rfl,
      fun turn part present => ?_⟩
    have further (path : List Turn) : heap.along (turn :: path) ty = heap.along path part :=
      congrArg (fun next => Option.bind next (heap.along path)) present
    exact ⟨fun path short => further path ▸ below.looks (turn :: path) (Nat.succ_le_succ short),
      fun path short => further path ▸ below.parts (turn :: path) (Nat.succ_lt_succ short)⟩
  · rintro ⟨look, same, inner⟩
    refine ⟨fun path short found reached => ?_, fun path short found reached => ?_⟩
    · cases path with
      | nil =>
        cases reached
        exact look
      | cons turn rest =>
        obtain ⟨part, present, reached⟩ := Option.bind_eq_some_iff.mp reached
        exact (inner turn part present).looks rest (Nat.le_of_succ_le_succ short) found reached
    · cases path with
      | nil =>
        cases reached
        exact same
      | cons turn rest =>
        obtain ⟨part, present, reached⟩ := Option.bind_eq_some_iff.mp reached
        exact (inner turn part present).parts rest (Nat.lt_of_succ_lt_succ short) found reached

/-- The types to which a single turn leads from a type. -/
def parts (heap : Heap) : Ty → List Ty
  | .object id => (heap.fields id).entries.map Prod.snd
  | .function _ _ bound => bound
  | .variant id => (heap.tags id).entries.flatMap Prod.snd
  | _ => []

theorem mem_parts_of_part? {turn : Turn} {part : Ty} (present : part ∈ heap.part? ty turn) :
    part ∈ heap.parts ty := by
  unfold part? at present
  split at present
  next id name =>
    exact List.mem_map.mpr ⟨(name, part), ((heap.fields id).mem_entries_iff _ _).mpr present, rfl⟩
  next id tag position =>
    obtain ⟨args, held, found⟩ := Option.bind_eq_some_iff.mp present
    exact List.mem_flatMap.mpr ⟨(tag, args), ((heap.tags id).mem_entries_iff _ _).mpr held,
      List.mem_of_getElem? found⟩
  next => exact List.mem_of_getElem? present
  next => cases present

/-- It is enough to look at the parts one by one. -/
theorem ChangedBelow.deeper (look : changed.unfolding 1 ty = heap.unfolding 1 ty)
    (same : ∀ turn, changed.part? ty turn = heap.part? ty turn)
    (inner : ∀ part ∈ heap.parts ty, heap.ChangedBelow changed level part) :
    heap.ChangedBelow changed (level + 1) ty :=
  changedBelow_succ_iff.mpr
    ⟨look, same, fun _ part present => inner part (mem_parts_of_part? present)⟩

/-- A change below a level is not seen in the unfolding down to this level. -/
theorem ChangedBelow.unfolding_eq (below : heap.ChangedBelow changed level ty) :
    changed.unfolding (level + 1) ty = heap.unfolding (level + 1) ty := by
  induction level generalizing ty with
  | zero => exact changedBelow_zero_iff.mp below
  | succ level inductionHypothesis =>
    obtain ⟨look, same, inner⟩ := changedBelow_succ_iff.mp below
    refine unfolding_succ_eq_iff.mpr ⟨(unfolding_succ_eq_iff.mp look).1, fun turn => ?_⟩
    rw [same]
    exact Option.map_congr fun part present => inductionHypothesis (inner turn part present)

end

/-! ### How far a text reaches -/

theorem text_eq_unfolding (heap : Heap) (ty : Ty) :
    heap.text ty = (heap.unfolding (deepestLevel + 1) ty).text :=
  (heap.text_unfolding (deepestLevel + 1) ty).symm

/-- On every heap the text of a type is complete after as many nested requests as there are levels
to be written, and one more for what is cut off. It is the text of the unfolding that is cut there.
So types that agree on these levels and have nodes in the same places below have the same text, and
a change of the heap that leaves these as they are does not alter it. -/
theorem text_is_bounded_view (heap : Heap) (ty : Ty) :
    (∀ (beyond : Nat → Ty → Option String) (requests : Nat), deepestLevel + 1 < requests →
      (heap.write^[requests] beyond) 0 ty = some (heap.text ty)) ∧
    heap.text ty = (heap.unfolding (deepestLevel + 1) ty).text ∧
    (∀ (other : Heap) (found : Ty), heap.AgreeWithin (deepestLevel + 1) ty other found →
      heap.text ty = other.text found) ∧
    ∀ changed : Heap, heap.ChangedBelow changed deepestLevel ty →
      changed.text ty = heap.text ty := by
  refine ⟨fun beyond requests enough => ?_, heap.text_eq_unfolding ty,
    fun other found agree => ?_, fun changed below => ?_⟩
  · obtain ⟨more, rfl⟩ := Nat.exists_eq_add_of_le enough
    exact write_iterate beyond (Nat.zero_add _) ty
  · rw [text_eq_unfolding, text_eq_unfolding, unfolding_eq_iff.mpr agree]
  · rw [text_eq_unfolding, text_eq_unfolding, below.unfolding_eq]

/-- An object that holds a function which has been given a variant of this object. -/
def knot : Heap where
  objects := ⟨#[.singleton "f" (.function ⟨0⟩ 2 [.variant ⟨0⟩])]⟩
  variants := ⟨#[.singleton "Node" [.object ⟨0⟩]]⟩

/-- Three such objects, each of which leads to the next one, and a last one of another kind. -/
def spiral : Heap where
  objects := ⟨#[.singleton "f" (.function ⟨0⟩ 2 [.variant ⟨0⟩]),
    .singleton "f" (.function ⟨0⟩ 2 [.variant ⟨1⟩]),
    .singleton "f" (.function ⟨0⟩ 2 [.variant ⟨2⟩]), .singleton "last" .integer]⟩
  variants := ⟨#[.singleton "Node" [.object ⟨1⟩], .singleton "Node" [.object ⟨2⟩],
    .singleton "Node" [.object ⟨3⟩]]⟩

/-- The unfolding of an object with such a function, of which this is left out. -/
def winding (inner : Unfolding) : Unfolding :=
  .object [("f", .function ⟨0⟩ 2 [.variant [("Node", [inner])]])]

theorem knot_agreeWithin_spiral :
    knot.AgreeWithin (deepestLevel + 1) (.object ⟨0⟩) spiral (.object ⟨0⟩) := by
  -- Each object takes three levels: its own, that of the function and that of the variant.
  have wind (levels : Nat) : knot.unfolding (levels + 3) (.object ⟨0⟩) =
      winding (knot.unfolding levels (.object ⟨0⟩)) := rfl
  have outer : spiral.unfolding 9 (.object ⟨0⟩) =
      winding (spiral.unfolding 6 (.object ⟨1⟩)) := rfl
  have middle : spiral.unfolding 6 (.object ⟨1⟩) =
      winding (spiral.unfolding 3 (.object ⟨2⟩)) := rfl
  have inner : spiral.unfolding 3 (.object ⟨2⟩) = winding .cut := rfl
  exact unfolding_eq_iff.mp <| calc knot.unfolding 9 (.object ⟨0⟩)
    _ = winding (winding (winding .cut)) := by rw [wind 6, wind 3, wind 0, unfolding]
    _ = spiral.unfolding 9 (.object ⟨0⟩) := by rw [outer, middle, inner]

theorem spiral_changedBelow :
    spiral.ChangedBelow (spiral.setField ⟨3⟩ "back" (.object ⟨0⟩)) deepestLevel
      (.object ⟨0⟩) := by
  -- On each level stands one node, and the object that is changed stands on the next one.
  iterate 8
    refine .deeper rfl (fun turn => by cases turn <;> rfl) (List.forall_mem_singleton.mpr ?_)
  exact changedBelow_zero_iff.mpr rfl

/-- Both have the same text, and a field that is added on the ninth level makes no difference. -/
theorem knot_and_spiral_text :
    knot.AgreeWithin (deepestLevel + 1) (.object ⟨0⟩) spiral (.object ⟨0⟩) ∧
      spiral.ChangedBelow (spiral.setField ⟨3⟩ "back" (.object ⟨0⟩)) deepestLevel (.object ⟨0⟩) ∧
      (knot.write^[10] fun _ _ => none) 0 (.object ⟨0⟩) = some
        "\x7bf: fn#0(Node(\x7bf: fn#0(Node(\x7bf: fn#0(Node(..), _)\x7d), _)\x7d), _)\x7d" ∧
      spiral.text (.object ⟨0⟩) = knot.text (.object ⟨0⟩) ∧
      (spiral.setField ⟨3⟩ "back" (.object ⟨0⟩)).text (.object ⟨0⟩) =
        spiral.text (.object ⟨0⟩) := by
  obtain ⟨ends, -, agreeing, -⟩ := text_is_bounded_view knot (.object ⟨0⟩)
  obtain ⟨-, -, -, changes⟩ := text_is_bounded_view spiral (.object ⟨0⟩)
  have written : knot.text (.object ⟨0⟩) =
      "\x7bf: fn#0(Node(\x7bf: fn#0(Node(\x7bf: fn#0(Node(..), _)\x7d), _)\x7d), _)\x7d" := by
    decide +kernel
  exact ⟨knot_agreeWithin_spiral, spiral_changedBelow,
    (ends _ 10 (by decide)).trans (congrArg some written),
    (agreeing _ _ knot_agreeWithin_spiral).symm, changes _ spiral_changedBelow⟩

-- A type that contains itself needs every one of the requests.
example : (knot.write^[deepestLevel + 1] fun _ _ => none) 0 (.object ⟨0⟩) = none := by
  decide +kernel

end Heap

end CallTyping
