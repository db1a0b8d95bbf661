/-
This file defines structural equality of types. Objects and variants may contain
themselves, so the comparison follows a pair of handles only once: when the pair
comes up again while it is being compared, the two are assumed to be equal. All
pairs that were followed stay assumed until the whole comparison ends. The order
of fields and tags plays no part.

A comparison answers with the pairs assumed so far, or with nothing as soon as a
difference is found. The heap has finitely many pairs of handles and every
descent adds a new one, which bounds the depth of the comparison.
-/

import CallTyping.Heap

namespace CallTyping

/-- Two handles of one sort whose parts are to be compared. -/
inductive HandlePair where
  | objects (left right : ObjectId)
  | variants (left right : VariantId)
  deriving DecidableEq

/-- Whether both handles are the same. -/
def HandlePair.reflexive : HandlePair → Bool
  | .objects left right => left = right
  | .variants left right => left = right

/-- The pairs of handles that are assumed to be equal. -/
abbrev Assumptions := List HandlePair

/-- Compares under assumptions; no answer means a difference. -/
abbrev Comparison := Assumptions → Option Assumptions

/-! ### Types and lists of types -/

mutual

/-- Compares two types, leaving handles to `descend`. -/
def compareTypes (descend : HandlePair → Comparison) : Ty → Ty → Comparison
  | .unit, .unit => some
  | .bool, .bool => some
  | .integer, .integer => some
  | .float, .float => some
  | .string, .string => some
  | .object left, .object right => descend (.objects left right)
  | .variant left, .variant right => descend (.variants left right)
  | .function closure arity bound, .function otherClosure otherArity otherBound =>
    if closure = otherClosure ∧ arity = otherArity then
      compareLists descend bound otherBound
    else fun _ => none
  | _, _ => fun _ => none

/-- Compares two lists of types position by position. -/
def compareLists (descend : HandlePair → Comparison) : List Ty → List Ty → Comparison
  | [], [] => some
  | left :: lefts, right :: rights => fun assumed =>
    (compareTypes descend left right assumed).bind (compareLists descend lefts rights)
  | _, _ => fun _ => none

end

/-! ### Parts of objects and variants -/

/-- Compares every listed part with the part of the same name on the other side. -/
def compareEntries {α : Type} (compare : α → α → Comparison) (others : OrderedMap String α) :
    List (String × α) → Comparison
  | [] => some
  | (name, part) :: rest => fun assumed =>
    match others.get? name with
    | some other => (compare part other assumed).bind (compareEntries compare others rest)
    | none => none

/-- Compares two maps of parts, which have to have the same names. -/
def compareParts {α : Type} (compare : α → α → Comparison) (left right : OrderedMap String α) :
    Comparison :=
  if left.size = right.size then compareEntries compare right left.entries else fun _ => none

namespace Heap

/-- Compares the parts behind two handles that are neither the same nor assumed to be equal. The
handles among the parts are left to `descend`. -/
def follow (heap : Heap) (descend : HandlePair → Comparison) (pair : HandlePair) : Comparison :=
  fun assumed =>
    if pair.reflexive ∨ pair ∈ assumed then
      some assumed
    else
      match pair with
      | .objects left right =>
        compareParts (compareTypes descend) (heap.fields left) (heap.fields right)
          (pair :: assumed)
      | .variants left right =>
        compareParts (compareLists descend) (heap.tags left) (heap.tags right) (pair :: assumed)

/-- Compares the parts behind two handles, at most `depth` handles deep. -/
def compareHandles (heap : Heap) : Nat → HandlePair → Comparison
  | 0 => fun _ _ => none
  | depth + 1 => heap.follow (heap.compareHandles depth)

/-- The number of pairs of handles on the heap. -/
def pairCount (heap : Heap) : Nat :=
  heap.objects.size * heap.objects.size + heap.variants.size * heap.variants.size

/-- A comparison that follows each pair of handles once descends no deeper than this. -/
def comparisonDepth (heap : Heap) : Nat := heap.pairCount + 1

/-- Whether two types have the same structure. -/
def same (heap : Heap) (left right : Ty) : Bool :=
  (compareTypes (heap.compareHandles heap.comparisonDepth) left right []).isSome

/-- Whether two lists of types have the same length and the same structure at each position. -/
def sameArguments (heap : Heap) : List Ty → List Ty → Bool
  | [], [] => true
  | left :: lefts, right :: rights => heap.same left right && heap.sameArguments lefts rights
  | _, _ => false

end Heap

/-! ### Types and themselves -/

mutual

/-- A type is like itself without any assumption on the parts of its handles. -/
theorem compareTypes_self {descend : HandlePair → Comparison}
    (handles : ∀ pair assumed, pair.reflexive = true → descend pair assumed = some assumed)
    (assumed : Assumptions) : (ty : Ty) → compareTypes descend ty ty assumed = some assumed
  | .function closure arity bound => by
    rw [compareTypes, if_pos ⟨rfl, rfl⟩]
    exact compareLists_self handles assumed bound
  | .object id => by
    rw [compareTypes]
    exact handles _ _ (decide_eq_true rfl)
  | .variant id => by
    rw [compareTypes]
    exact handles _ _ (decide_eq_true rfl)
  | .unit | .bool | .integer | .float | .string => by rw [compareTypes]

theorem compareLists_self {descend : HandlePair → Comparison}
    (handles : ∀ pair assumed, pair.reflexive = true → descend pair assumed = some assumed)
    (assumed : Assumptions) : (types : List Ty) → compareLists descend types types assumed =
      some assumed
  | [] => by rw [compareLists]
  | ty :: types => by
    simp only [compareLists]
    rw [compareTypes_self handles assumed ty]
    exact compareLists_self handles assumed types

end

namespace Heap

theorem same_self (heap : Heap) (ty : Ty) : heap.same ty ty = true := by
  unfold same comparisonDepth
  rw [compareTypes_self fun pair assumed same => ?_]
  · rfl
  · exact if_pos (.inl same)

theorem sameArguments_self (heap : Heap) (types : List Ty) :
    heap.sameArguments types types = true := by
  induction types with
  | nil => rfl
  | cons ty types inductionHypothesis =>
    rw [sameArguments, same_self, inductionHypothesis]
    rfl

end Heap

end CallTyping
