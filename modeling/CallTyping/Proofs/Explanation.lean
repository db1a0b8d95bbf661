/-
This file defines which types make sense. A handle has to be one that was given
out. A function type has to name a block that was remembered, with as many
parameters as this block has, and to hold fewer arguments than it has parameters,
or to have no parameters at all. What makes sense still does when more blocks are
remembered and the heap grows.
-/

import CallTyping.Proofs.Blocks
import CallTyping.Proofs.HeapGrowth

namespace CallTyping

/-- All that types refer to: the blocks that are remembered, and the heap. -/
structure Stock where
  closures : Closures
  heap : Heap

def Checker.stock (checker : Checker) : Stock := ⟨checker.closures, checker.heap⟩

namespace Stock

/-- Blocks stay as they are, and the heap only grows. -/
structure Grows (before after : Stock) : Prop where
  closures : before.closures.Within after.closures
  heap : before.heap.Grows after.heap

theorem Grows.refl (stock : Stock) : stock.Grows stock := ⟨.refl _, .refl _⟩

theorem Grows.trans {first second third : Stock} (left : first.Grows second)
    (right : second.Grows third) : first.Grows third :=
  ⟨left.closures.trans right.closures, left.heap.trans right.heap⟩

/-! ### Types that make sense -/

/-- A block with this many parameters is known under this identity. -/
def Knows (stock : Stock) (id : ClosureId) (arity : Nat) : Prop :=
  ∃ closure, stock.closures.get? id = some closure ∧ closure.params.length = arity

mutual

/-- Every handle in a type was given out; every function in it is known, and waits for arguments
unless it has no parameters. -/
def Explains (stock : Stock) : Ty → Prop
  | .function id arity bound =>
    stock.Knows id arity ∧ (bound.length < arity ∨ arity = 0 ∧ bound = []) ∧
      stock.ExplainsAll bound
  | .object id => id.index < stock.heap.objects.size
  | .variant id => id.index < stock.heap.variants.size
  | .unit | .bool | .integer | .float | .string => True

/-- Every type of a list makes sense. -/
def ExplainsAll (stock : Stock) : List Ty → Prop
  | [] => True
  | ty :: rest => stock.Explains ty ∧ stock.ExplainsAll rest

end

theorem explainsAll_iff (stock : Stock) (types : List Ty) :
    stock.ExplainsAll types ↔ ∀ ty ∈ types, stock.Explains ty := by
  induction types with
  | nil => simp [ExplainsAll]
  | cons ty rest inductionHypothesis =>
    rw [ExplainsAll, List.forall_mem_cons, inductionHypothesis]

variable {stock before after : Stock}

theorem Knows.mono (grown : before.Grows after) {id : ClosureId} {arity : Nat}
    (knows : before.Knows id arity) : after.Knows id arity := by
  obtain ⟨closure, known, params⟩ := knows
  exact ⟨closure, grown.closures id closure known, params⟩

mutual

/-- A type that makes sense does so ever after. -/
theorem Explains.mono (grown : before.Grows after) :
    (ty : Ty) → before.Explains ty → after.Explains ty
  | .function _ _ bound, ⟨known, fewer, args⟩ =>
    ⟨known.mono grown, fewer, ExplainsAll.mono grown bound args⟩
  | .object _, given => Nat.lt_of_lt_of_le given grown.heap.objects
  | .variant _, given => Nat.lt_of_lt_of_le given grown.heap.variants
  | .unit, _ | .bool, _ | .integer, _ | .float, _ | .string, _ => trivial

theorem ExplainsAll.mono (grown : before.Grows after) :
    (types : List Ty) → before.ExplainsAll types → after.ExplainsAll types
  | [], _ => trivial
  | ty :: rest, ⟨first, others⟩ =>
    ⟨Explains.mono grown ty first, ExplainsAll.mono grown rest others⟩

end

/-- A function that is given too few arguments waits for the others. -/
theorem Explains.supply {id : ClosureId} {arity : Nat} {bound args : List Ty}
    (function : stock.Explains (.function id arity bound))
    (explained : ∀ ty ∈ args, stock.Explains ty)
    (fewer : args.length < Ty.remaining arity bound) :
    stock.Explains (Ty.supply id arity bound args) := by
  obtain ⟨known, -, held⟩ := function
  refine ⟨known, .inl ?_, ?_⟩
  · rw [List.length_append]
    unfold Ty.remaining at fewer
    omega
  · rw [explainsAll_iff] at held ⊢
    exact List.forall_mem_append.mpr ⟨held, explained⟩

/-- A function that is given all its arguments has one for every parameter. -/
theorem Explains.saturated {id : ClosureId} {arity : Nat} {bound args : List Ty}
    (function : stock.Explains (.function id arity bound))
    (explained : ∀ ty ∈ args, stock.Explains ty)
    (all : args.length = Ty.remaining arity bound) :
    stock.Knows id (bound ++ args).length ∧ ∀ ty ∈ bound ++ args, stock.Explains ty := by
  obtain ⟨known, fewer, held⟩ := function
  refine ⟨?_, List.forall_mem_append.mpr ⟨(explainsAll_iff _ _).mp held, explained⟩⟩
  have filled : (bound ++ args).length = arity := by
    rw [List.length_append, all, Ty.remaining]
    rcases fewer with less | ⟨rfl, rfl⟩
    · omega
    · rfl
  rwa [filled]

theorem explains_literal (stock : Stock) (value : Literal) : stock.Explains value.type := by
  cases value <;> exact trivial

/-- The type of a body makes sense when the types of its statements do. -/
theorem explains_ofBody {types : List Ty} (explained : ∀ ty ∈ types, stock.Explains ty) :
    stock.Explains (Ty.ofBody types) := by
  unfold Ty.ofBody
  cases last : types.getLast? with
  | none => exact trivial
  | some ty => exact explained ty (List.mem_of_getLast? last)

/-- An object has a handle of its own. -/
theorem explains_newObject (closures : Closures) (heap : Heap) (fields : Fields) :
    Explains ⟨closures, (heap.newObject fields).2⟩ (heap.newObject fields).1 := by
  show heap.objects.size < (heap.objects.allocate fields).2.size
  rw [Arena.size_allocate]
  exact Nat.lt_succ_self _

theorem explains_newVariant (closures : Closures) (heap : Heap) (tags : Tags) :
    Explains ⟨closures, (heap.newVariant tags).2⟩ (heap.newVariant tags).1 := by
  show heap.variants.size < (heap.variants.allocate tags).2.size
  rw [Arena.size_allocate]
  exact Nat.lt_succ_self _

end Stock

/-- The type of a block that was just remembered makes sense. -/
theorem explains_remembered (checker : Checker) (closure : Closure) :
    (Conduct.remembered checker closure).stock.Explains
      (.function checker.closures.reserve.1 closure.params.length []) := by
  refine ⟨⟨closure, ?_, rfl⟩, ?_, trivial⟩
  · show (Conduct.remembered checker closure).closures.get? _ = _
    rw [Closures.get?_remembered]
    exact if_pos rfl
  · rcases Nat.eq_zero_or_pos closure.params.length with none | some
    · exact .inr ⟨none, rfl⟩
    · exact .inl some

end CallTyping
