/-
This file defines what a type looks like when it is followed through its parts, with
the fields of objects and the tags of variants in their order. A type may contain
itself, so it is unfolded to a number of levels only, and what lies deeper is cut
off. Two types, on one heap or on two, are alike in order if their unfoldings agree
however deep they go. No path sets such types apart.
-/

import CallTyping.Proofs.Regrouping

namespace CallTyping

/-- A type with its parts in their order, some of which may be cut off. -/
inductive Unfolding where
  | cut
  | plain (kind : Kind)
  | object (fields : List (String × Unfolding))
  | function (closure : ClosureId) (arity : Nat) (bound : List Unfolding)
  | variant (tags : List (String × List Unfolding))

namespace Heap

/-- A type of which so many levels are unfolded. -/
def unfolding (heap : Heap) : Nat → Ty → Unfolding
  | 0, _ => .cut
  | levels + 1, ty =>
    match ty with
    | .object id =>
      .object ((heap.fields id).entries.map fun (name, field) =>
        (name, heap.unfolding levels field))
    | .function closure arity bound =>
      .function closure arity (bound.map (heap.unfolding levels))
    | .variant id =>
      .variant ((heap.tags id).entries.map fun (tag, args) =>
        (tag, args.map (heap.unfolding levels)))
    | _ => .plain ty.kind

/-- The unfoldings of two types, each on its own heap, agree however deep they go. -/
def AlikeInOrder (heap : Heap) (left : Ty) (other : Heap) (right : Ty) : Prop :=
  ∀ levels, heap.unfolding levels left = other.unfolding levels right

/-! ### Parts that are alike in order -/

/-- Lists whose images agree in each of many ways. -/
theorem maps_eq_iff {α β γ : Type} {image : Nat → α → γ} {image' : Nat → β → γ}
    {lefts : List α} {rights : List β} :
    (∀ level, lefts.map (image level) = rights.map (image' level)) ↔
      List.Forall₂ (fun left right => ∀ level, image level left = image' level right) lefts
        rights := by
  induction lefts generalizing rights with
  | nil => cases rights <;> simp
  | cons left lefts inductionHypothesis =>
    cases rights with
    | nil => simp
    | cons right rights =>
      simp only [List.map_cons, List.cons.injEq, List.forall₂_cons, forall_and,
        inductionHypothesis]

variable {heap other : Heap}

theorem alikeInOrder_of_succ {left right : Ty}
    (alike : ∀ levels, heap.unfolding (levels + 1) left = other.unfolding (levels + 1) right) :
    heap.AlikeInOrder left other right
  | 0 => rfl
  | levels + 1 => alike levels

theorem alikeInOrder_objects_iff {left right : ObjectId} :
    heap.AlikeInOrder (.object left) other (.object right) ↔
      List.Forall₂
        (fun field found => field.1 = found.1 ∧ heap.AlikeInOrder field.2 other found.2)
        (heap.fields left).entries (other.fields right).entries := by
  have parts : heap.AlikeInOrder (.object left) other (.object right) ↔ ∀ levels,
      (heap.fields left).entries.map (fun field => (field.1, heap.unfolding levels field.2)) =
        (other.fields right).entries.map fun field => (field.1, other.unfolding levels field.2) :=
    ⟨fun alike levels => Unfolding.object.inj (alike (levels + 1)),
      fun same => alikeInOrder_of_succ fun levels => congrArg Unfolding.object (same levels)⟩
  simp only [parts, maps_eq_iff, Prod.mk.injEq, forall_and, forall_const]
  rfl

theorem alikeInOrder_functions_iff {closure otherClosure : ClosureId} {arity otherArity : Nat}
    {bound otherBound : List Ty} :
    heap.AlikeInOrder (.function closure arity bound) other
        (.function otherClosure otherArity otherBound) ↔
      closure = otherClosure ∧ arity = otherArity ∧
        List.Forall₂ (heap.AlikeInOrder · other ·) bound otherBound := by
  have parts : heap.AlikeInOrder (.function closure arity bound) other
      (.function otherClosure otherArity otherBound) ↔ ∀ levels,
        closure = otherClosure ∧ arity = otherArity ∧
          bound.map (heap.unfolding levels) = otherBound.map (other.unfolding levels) :=
    ⟨fun alike levels => Unfolding.function.inj (alike (levels + 1)),
      fun same => alikeInOrder_of_succ fun levels => by
        obtain ⟨rfl, rfl, positions⟩ := same levels
        exact congrArg (Unfolding.function closure arity) positions⟩
  simp only [parts, forall_and, forall_const, maps_eq_iff]
  rfl

theorem alikeInOrder_variants_iff {left right : VariantId} :
    heap.AlikeInOrder (.variant left) other (.variant right) ↔
      List.Forall₂
        (fun tag found => tag.1 = found.1 ∧
          List.Forall₂ (heap.AlikeInOrder · other ·) tag.2 found.2)
        (heap.tags left).entries (other.tags right).entries := by
  have parts : heap.AlikeInOrder (.variant left) other (.variant right) ↔ ∀ levels,
      (heap.tags left).entries.map (fun tag => (tag.1, tag.2.map (heap.unfolding levels))) =
        (other.tags right).entries.map fun tag => (tag.1, tag.2.map (other.unfolding levels)) :=
    ⟨fun alike levels => Unfolding.variant.inj (alike (levels + 1)),
      fun same => alikeInOrder_of_succ fun levels => congrArg Unfolding.variant (same levels)⟩
  simp only [parts, maps_eq_iff, Prod.mk.injEq, forall_and, forall_const]
  rfl

end Heap

/-- Maps whose entries are related in their order have related parts under the same names. -/
theorem SameParts.of_entries {α : Type} {related : α → α → Prop} {left right : OrderedMap String α}
    (entries : List.Forall₂ (fun entry found => entry.1 = found.1 ∧ related entry.2 found.2)
      left.entries right.entries) : SameParts related left right := by
  intro name
  unfold OrderedMap.get?
  generalize left.entries = lefts, right.entries = rights at entries
  induction entries with
  | nil => exact .none
  | @cons entry found _ _ head _ inductionHypothesis =>
    obtain ⟨first, part⟩ := entry
    obtain ⟨_, other⟩ := found
    obtain ⟨rfl, holds⟩ := head
    rw [OrderedMap.find, OrderedMap.find]
    split
    · exact .some holds
    · exact inductionHypothesis

/-- Two types of one kind. -/
inductive Ty.Paired : Ty → Ty → Prop
  | unit : Paired .unit .unit
  | bool : Paired .bool .bool
  | integer : Paired .integer .integer
  | float : Paired .float .float
  | string : Paired .string .string
  | objects (left right : ObjectId) : Paired (.object left) (.object right)
  | functions (closure otherClosure : ClosureId) (arity otherArity : Nat)
    (bound otherBound : List Ty) :
    Paired (.function closure arity bound) (.function otherClosure otherArity otherBound)
  | variants (left right : VariantId) : Paired (.variant left) (.variant right)

theorem Ty.paired_of_kind {left right : Ty} (same : left.kind = right.kind) :
    Ty.Paired left right := by
  cases left <;> cases right <;> first | constructor | cases same

namespace Heap

/-! ### Paths into types that are alike in order -/

namespace AlikeInOrder

variable {heap other : Heap} {left right : Ty}

theorem paired (alike : heap.AlikeInOrder left other right) : Ty.Paired left right := by
  have top := alike 1
  cases left <;> cases right <;> first | constructor | cases top

theorem fields {left right : ObjectId}
    (alike : heap.AlikeInOrder (.object left) other (.object right)) :
    SameParts (heap.AlikeInOrder · other ·) (heap.fields left) (other.fields right) :=
  .of_entries (alikeInOrder_objects_iff.mp alike)

theorem tags {left right : VariantId}
    (alike : heap.AlikeInOrder (.variant left) other (.variant right)) :
    SameParts (List.Forall₂ (heap.AlikeInOrder · other ·)) (heap.tags left) (other.tags right) :=
  .of_entries (alikeInOrder_variants_iff.mp alike)

theorem getElem? {lefts rights : List Ty}
    (alike : List.Forall₂ (heap.AlikeInOrder · other ·) lefts rights) (position : Nat) :
    Option.Rel (heap.AlikeInOrder · other ·) lefts[position]? rights[position]? := by
  induction alike generalizing position with
  | nil => exact .none
  | cons head _ inductionHypothesis =>
    cases position with
    | zero => exact .some head
    | succ position => exact inductionHypothesis position

theorem part? (alike : heap.AlikeInOrder left other right) (turn : Turn) :
    Option.Rel (heap.AlikeInOrder · other ·) (heap.part? left turn) (other.part? right turn) := by
  cases alike.paired with
  | objects =>
    cases turn with
    | field name => exact alike.fields name
    | _ => exact .none
  | functions =>
    cases turn with
    | bound position => exact getElem? (alikeInOrder_functions_iff.mp alike).2.2 position
    | _ => exact .none
  | variants =>
    cases turn with
    | argument tag position =>
      exact rel_bind (alike.tags tag) fun _ _ positions => getElem? positions position
    | _ => exact .none
  | _ => exact .none

theorem surface_eq (alike : heap.AlikeInOrder left other right) :
    heap.surface left = other.surface right := by
  cases alike.paired with
  | objects =>
    exact congrArg Surface.object (funext fun name => propext (alike.fields.keys name))
  | functions =>
    obtain ⟨rfl, rfl, positions⟩ := alikeInOrder_functions_iff.mp alike
    exact congrArg (Surface.function _ _) positions.length_eq
  | variants =>
    exact congrArg Surface.variant (funext fun tag =>
      map_eq_of_rel (alike.tags tag) fun _ _ => List.Forall₂.length_eq)
  | _ => rfl

theorem along (path : List Turn) (alike : heap.AlikeInOrder left other right) :
    Option.Rel (heap.AlikeInOrder · other ·) (heap.along path left) (other.along path right) := by
  induction path generalizing left right with
  | nil => exact .some alike
  | cons turn rest inductionHypothesis =>
    rw [Heap.along, Heap.along]
    exact rel_bind (alike.part? turn) fun _ _ => inductionHypothesis

/-- Types that are alike in order are alike. -/
theorem alike (inOrder : heap.AlikeInOrder left other right) : heap.Alike left other right :=
  fun path => map_eq_of_rel (inOrder.along path) fun _ _ => surface_eq

end AlikeInOrder

end Heap

end CallTyping
