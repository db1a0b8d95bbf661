/-
This file proves that comparisons of types decide whether two types have the same
unfolding, which is infinite where a type contains itself. Two types are set apart
by a path: by a field, a tag, a number of arguments or a kind of type that only one
of them has at its end. A comparison assumes pairs of handles to be equal as soon
as it follows them, and never takes an assumption back. That is justified at the
end of the whole comparison, and not before: by then all pairs that were assumed
have been followed, so they form a bisimulation, and no path leads out of one. In
the other direction a comparison of types in a bisimulation meets no difference,
and comes to its end since it follows each pair only once.
-/

import CallTyping.Proofs.ComparisonDepth
import Mathlib.Data.List.Forall2
import Mathlib.Data.List.Perm.Subperm

namespace CallTyping

/-! ### Answers that are both there and related, or both missing -/

section

variable {α β γ δ : Type} {related : α → β → Prop} {left : Option α} {right : Option β}

theorem rel_imp {weaker : α → β → Prop} (answers : Option.Rel related left right)
    (implies : ∀ part other, related part other → weaker part other) :
    Option.Rel weaker left right := by
  cases answers with
  | none => exact .none
  | some holds => exact .some (implies _ _ holds)

theorem rel_bind {further : γ → δ → Prop} {next : α → Option γ} {next' : β → Option δ}
    (answers : Option.Rel related left right)
    (follows : ∀ part other, related part other → Option.Rel further (next part) (next' other)) :
    Option.Rel further (left.bind next) (right.bind next') := by
  cases answers with
  | none => exact .none
  | some holds => exact follows _ _ holds

theorem map_eq_of_rel {image : α → γ} {image' : β → γ} (answers : Option.Rel related left right)
    (same : ∀ part other, related part other → image part = image' other) :
    left.map image = right.map image' := by
  cases answers with
  | none => rfl
  | some holds => exact congrArg some (same _ _ holds)

theorem map_eq_map_iff {image : α → γ} {image' : β → γ} :
    left.map image = right.map image' ↔
      Option.Rel (fun part other => image part = image' other) left right := by
  cases left <;> cases right <;> simp

theorem rel_of_isSome (both : left.isSome = right.isSome)
    (values : ∀ part ∈ left, ∀ other ∈ right, related part other) :
    Option.Rel related left right := by
  cases left with
  | none =>
    cases right with
    | none => exact .none
    | some => cases both
  | some part =>
    cases right with
    | none => cases both
    | some other => exact .some (values part rfl other rfl)

end

/-! ### Paths into a type -/

/-- A way on from a type to one of the types in it. -/
inductive Turn where
  | field (name : String)
  | argument (tag : String) (position : Nat)
  | bound (position : Nat)

namespace Heap

section

variable (heap : Heap)

/-- The type to which one comes from another one by a turn, if it has this turn. -/
def part? : Ty → Turn → Option Ty
  | .object id, .field name => heap.field? id name
  | .variant id, .argument tag position => (heap.tag? id tag).bind (·[position]?)
  | .function _ _ bound, .bound position => bound[position]?
  | _, _ => none

/-- The type at the end of a path. -/
def along : List Turn → Ty → Option Ty
  | [], ty => some ty
  | turn :: rest, ty => (heap.part? ty turn).bind (along rest)

/-- What can be seen of a type without a look into its parts. -/
inductive Surface where
  | plain (kind : Kind)
  /-- The names of the fields. -/
  | object (names : String → Prop)
  /-- The tags, with the number of arguments of each. -/
  | variant (tags : String → Option Nat)
  | function (closure : ClosureId) (arity bound : Nat)

def surface : Ty → Surface
  | .object id => .object (· ∈ (heap.fields id).keys)
  | .variant id => .variant fun tag => (heap.tag? id tag).map List.length
  | .function closure arity bound => .function closure arity bound.length
  | ty => .plain ty.kind

/-- No path sets the two types apart: every path leads into both or into none, and the types at its
ends look the same. -/
def Indistinct (left right : Ty) : Prop :=
  ∀ path, (heap.along path left).map heap.surface = (heap.along path right).map heap.surface

/-- A relation whose members look the same, and whose parts are related again. -/
structure Bisimulation (related : Ty → Ty → Prop) : Prop where
  surface {left right : Ty} : related left right → heap.surface left = heap.surface right
  parts {left right : Ty} : related left right → ∀ turn,
    Option.Rel related (heap.part? left turn) (heap.part? right turn)

/-- Some bisimulation relates the two types. -/
def Bisimilar (left right : Ty) : Prop :=
  ∃ related, heap.Bisimulation related ∧ related left right

end

/-! ### Bisimulations and paths -/

variable {heap : Heap} {related : Ty → Ty → Prop}

namespace Bisimulation

theorem along (bisimulation : heap.Bisimulation related) (path : List Turn) {left right : Ty}
    (holds : related left right) :
    Option.Rel related (heap.along path left) (heap.along path right) := by
  induction path generalizing left right with
  | nil => exact .some holds
  | cons turn rest inductionHypothesis =>
    rw [Heap.along, Heap.along]
    exact rel_bind (bisimulation.parts holds turn) fun _ _ => inductionHypothesis

theorem indistinct (bisimulation : heap.Bisimulation related) {left right : Ty}
    (holds : related left right) : heap.Indistinct left right :=
  fun path => map_eq_of_rel (bisimulation.along path holds) fun _ _ => bisimulation.surface

end Bisimulation

/-- Types that no path sets apart are a bisimulation, the largest one. -/
theorem indistinct_bisimulation (heap : Heap) : heap.Bisimulation heap.Indistinct where
  surface same := Option.some.inj (same [])
  parts {left right} same turn := by
    have further := fun path => same (turn :: path)
    simp only [along] at further
    generalize heap.part? left turn = first, heap.part? right turn = second at further ⊢
    refine rel_of_isSome (by simpa [along] using congrArg Option.isSome (further [])) ?_
    rintro part rfl other rfl
    exact further

theorem bisimilar_iff_indistinct (heap : Heap) (left right : Ty) :
    heap.Bisimilar left right ↔ heap.Indistinct left right :=
  ⟨fun ⟨_, bisimulation, holds⟩ => bisimulation.indistinct holds,
    fun same => ⟨_, heap.indistinct_bisimulation, same⟩⟩

end Heap

/-! ### Maps with the same names -/

namespace OrderedMap

variable {α : Type} {left right : OrderedMap String α}

/-- Two maps with as many names, those of one being names of the other, have the same names. -/
theorem keys_subset_of_size (sizes : left.size = right.size)
    (subset : left.keys ⊆ right.keys) : right.keys ⊆ left.keys := by
  have lengths : right.keys.length ≤ left.keys.length := by
    simp only [keys, List.length_map]
    exact Nat.le_of_eq sizes.symm
  exact ((List.subperm_of_subset left.distinct subset).perm_of_length_le lengths).symm.subset

theorem size_eq_of_keys (same : ∀ name, name ∈ left.keys ↔ name ∈ right.keys) :
    left.size = right.size := by
  have perm : left.keys.Perm right.keys :=
    (List.perm_ext_iff_of_nodup left.distinct right.distinct).mpr same
  simpa only [keys, size, List.length_map] using perm.length_eq

end OrderedMap

/-- Two maps with related parts under the same names. -/
def SameParts {α : Type} (related : α → α → Prop) (left right : OrderedMap String α) : Prop :=
  ∀ name, Option.Rel related (left.get? name) (right.get? name)

namespace SameParts

variable {α : Type} {related : α → α → Prop} {left right : OrderedMap String α}

theorem imp {weaker : α → α → Prop} (parts : SameParts related left right)
    (implies : ∀ part other, related part other → weaker part other) :
    SameParts weaker left right :=
  fun name => rel_imp (parts name) implies

theorem refl (reflexive : ∀ part, related part part) (map : OrderedMap String α) :
    SameParts related map map := by
  intro name
  cases map.get? name with
  | none => exact .none
  | some part => exact .some (reflexive part)

theorem keys (parts : SameParts related left right) (name : String) :
    name ∈ left.keys ↔ name ∈ right.keys := by
  rw [← OrderedMap.contains_iff, ← OrderedMap.contains_iff, OrderedMap.contains,
    OrderedMap.contains]
  have found := parts name
  generalize left.get? name = first, right.get? name = second at found ⊢
  cases found <;> rfl

/-- It is enough to find all parts of one of two maps of the same size in the other. -/
theorem of_size (sizes : left.size = right.size)
    (found : ∀ name part, (name, part) ∈ left.entries →
      ∃ other, right.get? name = some other ∧ related part other) :
    SameParts related left right := by
  have subset : left.keys ⊆ right.keys := by
    intro name member
    obtain ⟨⟨_, part⟩, inside, rfl⟩ := List.mem_map.mp member
    obtain ⟨other, held, -⟩ := found _ part inside
    rw [← OrderedMap.contains_iff, OrderedMap.contains, held]
    rfl
  intro name
  cases held : left.get? name with
  | some part =>
    obtain ⟨other, present, holds⟩ := found name part ((left.mem_entries_iff name part).mpr held)
    rw [present]
    exact .some holds
  | none =>
    have absent : right.get? name = none := by
      refine Option.not_isSome_iff_eq_none.mp fun present => ?_
      have back := OrderedMap.keys_subset_of_size sizes subset
        ((OrderedMap.contains_iff right name).mp present)
      rw [← OrderedMap.contains_iff, OrderedMap.contains, held] at back
      cases back
    rw [absent]
    exact .none

end SameParts

/-! ### Trust in assumptions -/

mutual

/-- Two types that are equal if the assumptions hold. -/
inductive Trusted (assumed : Assumptions) : Ty → Ty → Prop
  | self (ty : Ty) : Trusted assumed ty ty
  | objects {left right : ObjectId} (member : .objects left right ∈ assumed) :
    Trusted assumed (.object left) (.object right)
  | variants {left right : VariantId} (member : .variants left right ∈ assumed) :
    Trusted assumed (.variant left) (.variant right)
  | functions (closure : ClosureId) (arity : Nat) {bound other : List Ty}
    (positions : TrustedAll assumed bound other) :
    Trusted assumed (.function closure arity bound) (.function closure arity other)

/-- Two lists of types that are equal position by position if the assumptions hold. -/
inductive TrustedAll (assumed : Assumptions) : List Ty → List Ty → Prop
  | nil : TrustedAll assumed [] []
  | cons {left right : Ty} {lefts rights : List Ty} (head : Trusted assumed left right)
    (tail : TrustedAll assumed lefts rights) :
    TrustedAll assumed (left :: lefts) (right :: rights)

end

section

variable {assumed more : Assumptions}

mutual

theorem Trusted.mono (subset : assumed ⊆ more) {left right : Ty} :
    Trusted assumed left right → Trusted more left right
  | .self ty => .self ty
  | .objects member => .objects (subset member)
  | .variants member => .variants (subset member)
  | .functions closure arity positions =>
    .functions closure arity (TrustedAll.mono subset positions)

theorem TrustedAll.mono (subset : assumed ⊆ more) {lefts rights : List Ty} :
    TrustedAll assumed lefts rights → TrustedAll more lefts rights
  | .nil => .nil
  | .cons head tail => .cons (Trusted.mono subset head) (TrustedAll.mono subset tail)

end

theorem TrustedAll.length_eq {lefts rights : List Ty} :
    TrustedAll assumed lefts rights → lefts.length = rights.length
  | .nil => rfl
  | .cons _ tail => congrArg Nat.succ tail.length_eq

theorem TrustedAll.position {lefts rights : List Ty} :
    TrustedAll assumed lefts rights → ∀ index : Nat,
      Option.Rel (Trusted assumed) lefts[index]? rights[index]?
  | .nil, _ => .none
  | .cons head _, 0 => .some head
  | .cons _ tail, index + 1 => tail.position index

theorem TrustedAll.self (types : List Ty) : TrustedAll assumed types types := by
  induction types with
  | nil => exact .nil
  | cons ty _ inductionHypothesis => exact .cons (.self ty) inductionHypothesis

end

namespace Heap

variable {heap : Heap}

/-- The parts behind a pair of handles are equal if the assumptions hold. -/
def Followed (heap : Heap) (assumed : Assumptions) : HandlePair → Prop
  | .objects left right => SameParts (Trusted assumed) (heap.fields left) (heap.fields right)
  | .variants left right => SameParts (TrustedAll assumed) (heap.tags left) (heap.tags right)

theorem Followed.mono {assumed more : Assumptions} (subset : assumed ⊆ more) (pair : HandlePair)
    (followed : heap.Followed assumed pair) : heap.Followed more pair := by
  cases pair with
  | objects => exact SameParts.imp followed fun _ _ => Trusted.mono subset
  | variants => exact SameParts.imp followed fun _ _ => TrustedAll.mono subset

/-- Assumptions whose pairs have all been followed relate types that have the same unfolding. -/
theorem trusted_bisimulation {assumed : Assumptions}
    (followed : ∀ pair ∈ assumed, heap.Followed assumed pair) :
    heap.Bisimulation (Trusted assumed) where
  surface {left right} trusted := by
    cases trusted with
    | self => rfl
    | objects member =>
      exact congrArg Surface.object (funext fun name =>
        propext (SameParts.keys (followed _ member) name))
    | variants member =>
      exact congrArg Surface.variant (funext fun tag =>
        map_eq_of_rel (followed _ member tag) fun _ _ => TrustedAll.length_eq)
    | functions closure arity positions =>
      exact congrArg (Surface.function closure arity) positions.length_eq
  parts {left right} trusted turn := by
    cases trusted with
    | self =>
      generalize heap.part? left turn = part
      cases part with
      | none => exact .none
      | some part => exact .some (.self part)
    | objects member =>
      cases turn with
      | field name => exact followed _ member name
      | _ => exact .none
    | variants member =>
      cases turn with
      | argument tag position =>
        exact rel_bind (followed _ member tag) fun _ _ positions => positions.position position
      | _ => exact .none
    | functions closure arity positions =>
      cases turn with
      | bound position => exact positions.position position
      | _ => exact .none

end Heap

/-! ### Comparisons that find no difference -/

/-- An answer of the comparison keeps all assumptions and adds only pairs that it has followed, and
what was compared is good under them. -/
def Justified (heap : Heap) (compare : Comparison) (good : Assumptions → Prop) : Prop :=
  ∀ assumed, ∀ answer ∈ compare assumed, assumed ⊆ answer ∧ good answer ∧
    ∀ pair ∈ answer, pair ∈ assumed ∨ heap.Followed answer pair

namespace Justified

variable {heap : Heap} {good : Assumptions → Prop}

theorem done (fine : ∀ assumed, good assumed) : Justified heap some good := by
  rintro assumed _ ⟨⟩
  exact ⟨List.Subset.refl _, fine assumed, fun _ member => .inl member⟩

theorem differ : Justified heap (fun _ => none) good := fun _ _ answered => nomatch answered

theorem imp {compare : Comparison} {weaker : Assumptions → Prop}
    (justified : Justified heap compare good)
    (implies : ∀ assumed, good assumed → weaker assumed) : Justified heap compare weaker := by
  intro assumed answer answered
  obtain ⟨subset, fine, added⟩ := justified assumed answer answered
  exact ⟨subset, implies answer fine, added⟩

theorem andThen {first second : Comparison} {better : Assumptions → Prop}
    (start : Justified heap first good) (rest : Justified heap second better)
    (mono : ∀ {assumed more}, assumed ⊆ more → good assumed → good more) :
    Justified heap (fun assumed => (first assumed).bind second)
      fun assumed => good assumed ∧ better assumed := by
  intro assumed answer answered
  obtain ⟨middle, found, answered⟩ := Option.bind_eq_some_iff.mp answered
  obtain ⟨subset, fine, added⟩ := start assumed middle found
  obtain ⟨subset', fine', added'⟩ := rest middle answer answered
  refine ⟨List.Subset.trans subset subset', ⟨mono subset' fine, fine'⟩, fun pair member => ?_⟩
  rcases added' pair member with old | followed
  · exact (added pair old).imp_right (Heap.Followed.mono subset' pair)
  · exact .inr followed

section

variable {descend : HandlePair → Comparison}

mutual

theorem types (handles : ∀ pair, Justified heap (descend pair)
      fun assumed => pair.reflexive = true ∨ pair ∈ assumed) :
    (left right : Ty) → Justified heap (compareTypes descend left right) (Trusted · left right)
  | .function closure arity bound, right => by
    cases right with
    | function otherClosure otherArity other =>
      rw [compareTypes]
      split
      next same =>
        obtain ⟨rfl, rfl⟩ := same
        exact (lists handles bound other).imp fun _ => .functions closure arity
      next => exact differ
    | _ => simpa only [compareTypes] using differ
  | .object left, right => by
    cases right with
    | object right =>
      rw [compareTypes]
      refine (handles _).imp fun _ trusted => trusted.elim (fun same => ?_) .objects
      rw [of_decide_eq_true same]
      exact .self _
    | _ => simpa only [compareTypes] using differ
  | .variant left, right => by
    cases right with
    | variant right =>
      rw [compareTypes]
      refine (handles _).imp fun _ trusted => trusted.elim (fun same => ?_) .variants
      rw [of_decide_eq_true same]
      exact .self _
    | _ => simpa only [compareTypes] using differ
  | .unit, right | .bool, right | .integer, right | .float, right | .string, right => by
    cases right <;> simp only [compareTypes] <;> first | exact done fun _ => .self _ | exact differ

theorem lists (handles : ∀ pair, Justified heap (descend pair)
      fun assumed => pair.reflexive = true ∨ pair ∈ assumed) :
    (lefts rights : List Ty) →
      Justified heap (compareLists descend lefts rights) (TrustedAll · lefts rights)
  | [], [] => by
    simp only [compareLists]
    exact done fun _ => .nil
  | left :: lefts, right :: rights => by
    simp only [compareLists]
    exact ((Justified.types handles left right).andThen (lists handles lefts rights)
      fun subset => Trusted.mono subset).imp fun _ trusted => .cons trusted.1 trusted.2
  | [], _ :: _ | _ :: _, [] => by
    simp only [compareLists]
    exact differ

end

end

section

variable {α : Type} {compare : α → α → Comparison} {related : Assumptions → α → α → Prop}
  (mono : ∀ {assumed more : Assumptions}, assumed ⊆ more → ∀ {part other : α},
    related assumed part other → related more part other)
  (compared : ∀ part other, Justified heap (compare part other) (related · part other))

include mono compared

theorem entries (others : OrderedMap String α) (listed : List (String × α)) :
    Justified heap (compareEntries compare others listed) fun assumed =>
      ∀ name part, (name, part) ∈ listed →
        ∃ other, others.get? name = some other ∧ related assumed part other := by
  induction listed with
  | nil => exact done fun _ _ _ member => nomatch member
  | cons entry rest inductionHypothesis =>
    obtain ⟨name, part⟩ := entry
    simp only [compareEntries]
    cases found : others.get? name with
    | none => exact differ
    | some other =>
      refine ((compared part other).andThen inductionHypothesis fun subset => mono subset).imp ?_
      rintro assumed ⟨first, later⟩ name' part' member
      rcases List.mem_cons.mp member with equal | member
      · cases equal
        exact ⟨other, found, first⟩
      · exact later name' part' member

theorem parts (left right : OrderedMap String α) :
    Justified heap (compareParts compare left right)
      fun assumed => SameParts (related assumed) left right := by
  unfold compareParts
  split
  next sizes =>
    exact (entries mono compared right left.entries).imp fun _ found =>
      SameParts.of_size sizes found
  next => exact differ

end

/-- The pair that is followed is among those that have been followed at the end. -/
theorem followed {compare : Comparison} {pair : HandlePair} {assumed : Assumptions}
    (parts : Justified heap compare fun assumed => heap.Followed assumed pair) :
    ∀ answer ∈ compare (pair :: assumed), assumed ⊆ answer ∧
      (pair.reflexive = true ∨ pair ∈ answer) ∧
        ∀ other ∈ answer, other ∈ assumed ∨ heap.Followed answer other := by
  intro answer answered
  obtain ⟨subset, good, added⟩ := parts (pair :: assumed) answer answered
  refine ⟨List.Subset.trans (List.subset_cons_self _ _) subset,
    .inr (subset List.mem_cons_self), fun other member => ?_⟩
  rcases added other member with old | followed
  · rcases List.mem_cons.mp old with rfl | old
    · exact .inr good
    · exact .inl old
  · exact .inr followed

end Justified

namespace Heap

theorem follow_justified {heap : Heap} {descend : HandlePair → Comparison}
    (handles : ∀ pair, Justified heap (descend pair)
      fun assumed => pair.reflexive = true ∨ pair ∈ assumed) (pair : HandlePair) :
    Justified heap (heap.follow descend pair)
      fun assumed => pair.reflexive = true ∨ pair ∈ assumed := by
  intro assumed answer answered
  unfold follow at answered
  split at answered
  next known =>
    cases answered
    exact ⟨List.Subset.refl _, known, fun _ member => .inl member⟩
  next =>
    cases pair with
    | objects left right =>
      exact Justified.followed (Justified.parts Trusted.mono (Justified.types handles) _ _)
        answer answered
    | variants left right =>
      exact Justified.followed (Justified.parts TrustedAll.mono (Justified.lists handles) _ _)
        answer answered

theorem compareHandles_justified (heap : Heap) (depth : Nat) (pair : HandlePair) :
    Justified heap (heap.compareHandles depth pair)
      fun assumed => pair.reflexive = true ∨ pair ∈ assumed := by
  induction depth generalizing pair with
  | zero => exact Justified.differ
  | succ depth inductionHypothesis => exact follow_justified inductionHypothesis pair

/-- A comparison that starts without assumptions and finds no difference ends with a
bisimulation. -/
theorem bisimilar_of_same {heap : Heap} {left right : Ty} (equal : heap.same left right = true) :
    heap.Bisimilar left right := by
  obtain ⟨answer, answered⟩ := Option.isSome_iff_exists.mp equal
  obtain ⟨-, trusted, added⟩ := Justified.types
    (heap.compareHandles_justified heap.comparisonDepth) left right [] answer answered
  exact ⟨_, trusted_bisimulation fun pair member => (added pair member).resolve_left
    List.not_mem_nil, trusted⟩

end Heap

/-! ### Comparisons in a bisimulation -/

namespace Heap.Bisimulation

variable {heap : Heap} {related : Ty → Ty → Prop} {descend : HandlePair → Comparison}

theorem fields (bisimulation : heap.Bisimulation related) {left right : ObjectId}
    (holds : related (.object left) (.object right)) :
    SameParts related (heap.fields left) (heap.fields right) :=
  fun name => bisimulation.parts holds (.field name)

theorem positions (lefts rights : List Ty) (lengths : lefts.length = rights.length)
    (each : ∀ position : Nat, Option.Rel related lefts[position]? rights[position]?) :
    List.Forall₂ related lefts rights := by
  refine List.forall₂_iff_get.mpr ⟨lengths, fun index inside inside' => ?_⟩
  have found := each index
  rw [List.getElem?_eq_getElem inside, List.getElem?_eq_getElem inside'] at found
  cases found with
  | some holds => exact holds

theorem tags (bisimulation : heap.Bisimulation related) {left right : VariantId}
    (holds : related (.variant left) (.variant right)) :
    SameParts (List.Forall₂ related) (heap.tags left) (heap.tags right) := by
  intro tag
  have lengths := congrFun (Surface.variant.inj (bisimulation.surface holds)) tag
  have each := fun position => bisimulation.parts holds (.argument tag position)
  simp only [part?] at each
  change Option.Rel _ (heap.tag? left tag) (heap.tag? right tag)
  generalize heap.tag? left tag = first, heap.tag? right tag = second at lengths each ⊢
  refine rel_of_isSome (by simpa using congrArg Option.isSome lengths) ?_
  rintro args rfl others rfl
  exact positions args others (Option.some.inj lengths) each

theorem bound (bisimulation : heap.Bisimulation related) {closure otherClosure : ClosureId}
    {arity otherArity : Nat} {args others : List Ty}
    (holds : related (.function closure arity args) (.function otherClosure otherArity others)) :
    List.Forall₂ related args others :=
  positions args others (Surface.function.inj (bisimulation.surface holds)).2.2 fun position =>
    bisimulation.parts holds (.bound position)

/-- The relation holds between the types of a pair of handles. -/
def OfPair (related : Ty → Ty → Prop) : HandlePair → Prop
  | .objects left right => related (.object left) (.object right)
  | .variants left right => related (.variant left) (.variant right)

mutual

theorem compareTypes_isSome (bisimulation : heap.Bisimulation related)
    (handles : ∀ pair, OfPair related pair → ∀ assumed, (descend pair assumed).isSome = true) :
    (left right : Ty) → related left right → ∀ assumed,
      (compareTypes descend left right assumed).isSome = true
  | .function closure arity args, right, holds => by
    have surface := bisimulation.surface holds
    cases right with
    | function otherClosure otherArity others =>
      obtain ⟨rfl, rfl, -⟩ := Surface.function.inj surface
      rw [compareTypes, if_pos ⟨rfl, rfl⟩]
      exact compareLists_isSome bisimulation handles args others (bisimulation.bound holds)
    | _ => cases surface
  | .object left, right, holds => by
    have surface := bisimulation.surface holds
    cases right with
    | object right =>
      rw [compareTypes]
      exact handles _ holds
    | _ => cases surface
  | .variant left, right, holds => by
    have surface := bisimulation.surface holds
    cases right with
    | variant right =>
      rw [compareTypes]
      exact handles _ holds
    | _ => cases surface
  | .unit, right, holds | .bool, right, holds | .integer, right, holds | .float, right, holds
  | .string, right, holds => by
    have surface := bisimulation.surface holds
    cases right <;> cases surface
    simp only [compareTypes, Option.isSome_some, implies_true]

theorem compareLists_isSome (bisimulation : heap.Bisimulation related)
    (handles : ∀ pair, OfPair related pair → ∀ assumed, (descend pair assumed).isSome = true) :
    (lefts rights : List Ty) → List.Forall₂ related lefts rights → ∀ assumed,
      (compareLists descend lefts rights assumed).isSome = true
  | [], [], _, _ => by
    simp only [compareLists, Option.isSome_some]
  | left :: lefts, right :: rights, .cons head tail, assumed => by
    obtain ⟨middle, found⟩ := Option.isSome_iff_exists.mp
      (compareTypes_isSome bisimulation handles left right head assumed)
    simp only [compareLists, found, Option.bind_some]
    exact compareLists_isSome bisimulation handles lefts rights tail middle

end

theorem compareEntries_isSome {α : Type} {compare : α → α → Comparison}
    {parts : α → α → Prop}
    (compared : ∀ part other, parts part other → ∀ assumed,
      (compare part other assumed).isSome = true)
    (others : OrderedMap String α) (listed : List (String × α))
    (found : ∀ name part, (name, part) ∈ listed →
      ∃ other, others.get? name = some other ∧ parts part other) (assumed : Assumptions) :
    (compareEntries compare others listed assumed).isSome = true := by
  induction listed generalizing assumed with
  | nil => rfl
  | cons entry rest inductionHypothesis =>
    obtain ⟨name, part⟩ := entry
    obtain ⟨other, present, holds⟩ := found name part List.mem_cons_self
    obtain ⟨middle, answered⟩ := Option.isSome_iff_exists.mp (compared part other holds assumed)
    simp only [compareEntries, present, answered, Option.bind_some]
    exact inductionHypothesis (fun name part member =>
      found name part (List.mem_cons_of_mem _ member)) middle

theorem compareParts_isSome {α : Type} {compare : α → α → Comparison} {parts : α → α → Prop}
    (compared : ∀ part other, parts part other → ∀ assumed,
      (compare part other assumed).isSome = true)
    {left right : OrderedMap String α} (same : SameParts parts left right)
    (assumed : Assumptions) : (compareParts compare left right assumed).isSome = true := by
  rw [compareParts, if_pos (OrderedMap.size_eq_of_keys same.keys)]
  refine compareEntries_isSome compared right left.entries (fun name part member => ?_) assumed
  have found := same name
  rw [(left.mem_entries_iff name part).mp member] at found
  generalize right.get? name = second at found ⊢
  cases found with
  | some holds => exact ⟨_, rfl, holds⟩

theorem follow_isSome (bisimulation : heap.Bisimulation related)
    (handles : ∀ pair, OfPair related pair → ∀ assumed, (descend pair assumed).isSome = true)
    (pair : HandlePair) (holds : OfPair related pair) (assumed : Assumptions) :
    (heap.follow descend pair assumed).isSome = true := by
  unfold follow
  split
  · rfl
  next =>
    cases pair with
    | objects left right =>
      exact compareParts_isSome (compareTypes_isSome bisimulation handles)
        (bisimulation.fields holds) _
    | variants left right =>
      exact compareParts_isSome (compareLists_isSome bisimulation handles)
        (bisimulation.tags holds) _

/-- Types that a bisimulation relates have the same structure: comparing them meets no difference,
and the bound on the depth of comparisons plays no part. -/
theorem same (bisimulation : heap.Bisimulation related) {left right : Ty}
    (holds : related left right) : heap.same left right = true := by
  have deep (depth : Nat) (pair : HandlePair) (holds : OfPair related pair)
      (assumed : Assumptions) :
      (heap.follow^[depth] (fun _ => some) pair assumed).isSome = true := by
    induction depth generalizing pair assumed with
    | zero => rfl
    | succ depth inductionHypothesis =>
      rw [Function.iterate_succ_apply']
      exact bisimulation.follow_isSome inductionHypothesis pair holds assumed
  rw [← heap.same_beyond (fun _ => some) (Nat.le_refl _)]
  exact bisimulation.compareTypes_isSome (deep _) left right holds []

end Heap.Bisimulation

namespace Heap

/-- Types of the same structure are those that no path sets apart. -/
theorem same_iff (heap : Heap) (left right : Ty) :
    heap.same left right = true ↔ heap.Indistinct left right := by
  rw [← bisimilar_iff_indistinct]
  exact ⟨bisimilar_of_same, fun ⟨_, bisimulation, holds⟩ => bisimulation.same holds⟩

/-! ### Equivalence -/

/-- Having the same structure is an equivalence. -/
theorem same_equivalence (heap : Heap) :
    Equivalence fun left right => heap.same left right = true := by
  simp only [same_iff]
  exact ⟨fun _ _ => rfl, fun same path => (same path).symm,
    fun first second path => (first path).trans (second path)⟩

/-! ### The order of parts -/

/-- Two heaps with the same fields and tags behind every handle, in any order. -/
structure Shuffled (heap other : Heap) : Prop where
  fields (id : ObjectId) : (heap.fields id).entries.Perm (other.fields id).entries
  tags (id : VariantId) : (heap.tags id).entries.Perm (other.tags id).entries

namespace Shuffled

variable {heap other : Heap}

theorem get?_eq {α : Type} {left right : OrderedMap String α}
    (perm : left.entries.Perm right.entries) (name : String) :
    left.get? name = right.get? name := by
  refine Option.ext fun value => ?_
  rw [← OrderedMap.mem_entries_iff, ← OrderedMap.mem_entries_iff]
  exact perm.mem_iff

theorem part?_eq (shuffled : heap.Shuffled other) : heap.part? = other.part? := by
  funext ty turn
  cases ty with
  | object id =>
    cases turn with
    | field name => exact get?_eq (shuffled.fields id) name
    | _ => rfl
  | variant id =>
    cases turn with
    | argument tag position =>
      exact congrArg (Option.bind · (·[position]?)) (get?_eq (shuffled.tags id) tag)
    | _ => rfl
  | _ => cases turn <;> rfl

theorem surface_eq (shuffled : heap.Shuffled other) : heap.surface = other.surface := by
  funext ty
  cases ty with
  | object id =>
    refine congrArg Surface.object (funext fun name => propext ?_)
    exact ((shuffled.fields id).map Prod.fst).mem_iff
  | variant id =>
    refine congrArg Surface.variant (funext fun tag => ?_)
    exact congrArg (Option.map List.length) (get?_eq (shuffled.tags id) tag)
  | _ => rfl

theorem along_eq (shuffled : heap.Shuffled other) : heap.along = other.along := by
  funext path
  induction path with
  | nil => rfl
  | cons turn rest inductionHypothesis =>
    funext ty
    rw [along, along, shuffled.part?_eq, inductionHypothesis]

theorem same_eq (shuffled : heap.Shuffled other) (left right : Ty) :
    heap.same left right = other.same left right := by
  rw [Bool.eq_iff_iff, same_iff, same_iff, Indistinct, Indistinct, shuffled.along_eq,
    shuffled.surface_eq]

end Shuffled

/-- A comparison of two types ends by itself. It finds no difference exactly if no path sets them
apart, so exactly if they are bisimilar, which is an equivalence, and the order of fields and tags
plays no part. -/
theorem same_decides_bisimilarity (heap : Heap) :
    (∀ (beyond : HandlePair → Comparison) (depth : Nat), heap.comparisonDepth ≤ depth →
      ∀ left right,
        (compareTypes (heap.follow^[depth] beyond) left right []).isSome = heap.same left right) ∧
      (∀ left right, heap.same left right = true ↔ heap.Indistinct left right) ∧
      (∀ left right, heap.same left right = true ↔ heap.Bisimilar left right) ∧
      Equivalence (fun left right => heap.same left right = true) ∧
      ∀ other : Heap, heap.Shuffled other → ∀ left right,
        heap.same left right = other.same left right :=
  ⟨fun beyond _ enough left right => heap.same_beyond beyond enough left right, heap.same_iff,
    fun left right =>
      (heap.same_iff left right).trans (heap.bisimilar_iff_indistinct left right).symm,
    heap.same_equivalence, fun _ shuffled => shuffled.same_eq⟩

/-- Two objects, each of which has itself in a field, and the types of their other fields. The
second one has its fields in the other order if `turned` says so. -/
def selfContaining (turned : Bool) : Heap :=
  let me (index : Nat) : String × Ty := ("me", .object ⟨index⟩)
  let count : String × Ty := ("count", .integer)
  { objects := ⟨#[.ofList [me 0, count], .ofList (if turned then [count, me 1] else [me 1, count])]⟩
    variants := .empty }

/-- Objects that contain themselves have the same structure in either order of their fields. -/
theorem selfContaining_same :
    (selfContaining false).Shuffled (selfContaining true) ∧
      (selfContaining true).same (.object ⟨0⟩) (.object ⟨1⟩) = true ∧
      (selfContaining false).same (.object ⟨0⟩) (.object ⟨1⟩) =
        (selfContaining true).same (.object ⟨0⟩) (.object ⟨1⟩) ∧
      (selfContaining false).Bisimilar (.object ⟨0⟩) (.object ⟨1⟩) := by
  have shuffled : (selfContaining false).Shuffled (selfContaining true) := by
    refine ⟨fun id => ?_, fun id => List.Perm.refl _⟩
    obtain ⟨_ | _ | _⟩ := id
    · exact List.Perm.refl _
    · exact List.Perm.swap _ _ _
    · exact List.Perm.refl _
  have decides := same_decides_bisimilarity (selfContaining false)
  exact ⟨shuffled, by decide +kernel, decides.2.2.2.2 _ shuffled _ _,
    (decides.2.2.1 _ _).mp (by decide +kernel)⟩

end Heap

end CallTyping
