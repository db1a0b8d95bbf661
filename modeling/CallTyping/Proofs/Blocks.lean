/-
This file proves that a block which is remembered stays known as it is. Every
block gets an identity that no block had before, so nothing is ever overwritten,
and bodies are kept without types.
-/

import CallTyping.Proofs.Conduct
import CallTyping.Proofs.Covered

namespace CallTyping

namespace Closures

/-- Every closure is still known. -/
def Within (before after : Closures) : Prop :=
  ∀ id closure, before.get? id = some closure → after.get? id = some closure

/-- No closure is known under an identity that is still to be handed out. -/
def Bounded (closures : Closures) : Prop :=
  ∀ id closure, closures.get? id = some closure → id.index < closures.next

/-- All bodies that are kept are without types. -/
def Fresh (closures : Closures) : Prop :=
  ∀ id closure, closures.get? id = some closure → Blank (preorderNodes closure.body)

theorem Within.refl (closures : Closures) : closures.Within closures := fun _ _ known => known

theorem Within.trans {first second third : Closures} (left : first.Within second)
    (right : second.Within third) : first.Within third :=
  fun id closure known => right id closure (left id closure known)

variable {checker : Checker} {closure : Closure}

/-- A block that is remembered is found again, and the ones before it are. -/
theorem get?_remembered (checker : Checker) (closure : Closure) (id : ClosureId) :
    (Conduct.remembered checker closure).closures.get? id =
      if id = ⟨checker.closures.next⟩ then some closure else checker.closures.get? id := by
  show (checker.closures.known.insert ⟨checker.closures.next⟩ closure).get? id = _
  by_cases same : id = ⟨checker.closures.next⟩
  · rw [if_pos same, same, OrderedMap.get?_insert_self]
  · rw [if_neg same, OrderedMap.get?_insert_other _ _ _ _ same]
    rfl

/-- A block that is remembered takes the place of no other one. -/
theorem within_remembered (bounded : checker.closures.Bounded) (closure : Closure) :
    checker.closures.Within (Conduct.remembered checker closure).closures := by
  intro id other known
  have older := bounded id other known
  rw [get?_remembered, if_neg]
  · exact known
  · rintro rfl
    exact absurd older (Nat.lt_irrefl _)

theorem bounded_remembered (bounded : checker.closures.Bounded) :
    (Conduct.remembered checker closure).closures.Bounded := by
  intro id other known
  rw [get?_remembered] at known
  split at known
  next same => exact same ▸ Nat.lt_succ_self _
  next => exact Nat.lt_succ_of_lt (bounded id other known)

theorem fresh_remembered (fresh : checker.closures.Fresh)
    (blank : Blank (preorderNodes closure.body)) :
    (Conduct.remembered checker closure).closures.Fresh := by
  intro id other known
  rw [get?_remembered] at known
  split at known
  next =>
    cases known
    exact blank
  next => exact fresh id other known

end Closures

/-- Blocks stay if their identities are bounded, and bodies stay without types. -/
structure Closures.Keeps (before after : Closures) : Prop where
  within : before.Bounded → before.Within after
  bounded : before.Bounded → after.Bounded
  fresh : before.Fresh → after.Fresh

namespace Closures.Keeps

theorem refl (closures : Closures) : closures.Keeps closures := ⟨fun _ => .refl _, id, id⟩

theorem trans {first second third : Closures} (left : first.Keeps second)
    (right : second.Keeps third) : first.Keeps third :=
  ⟨fun bounded => (left.within bounded).trans (right.within (left.bounded bounded)),
    right.bounded ∘ left.bounded, right.fresh ∘ left.fresh⟩

theorem remembered (checker : Checker) {closure : Closure}
    (blank : Blank (preorderNodes closure.body)) :
    checker.closures.Keeps (Conduct.remembered checker closure).closures :=
  ⟨fun bounded => within_remembered bounded closure, bounded_remembered, fun fresh =>
    fresh_remembered fresh blank⟩

end Closures.Keeps

/-! ### Passes -/

theorem keeps_flow (setup : Setup) {run : Runner}
    (runs : ∀ occasion program (checker : Checker),
      checker.closures.Keeps (run occasion program checker).2.closures) :
    Flow (fun before _ after => before.closures.Keeps after.closures) setup run where
  still checker := .refl checker.closures
  trans := .trans
  fault checker _ _ _ := .refl checker.closures
  record checker _ := .refl checker.closures
  inlay checker _ _ := .refl checker.closures
  bind checker _ _ _ := .refl checker.closures
  define checker _ _ _ := .refl checker.closures
  block checker _ body _ := .remembered checker (blank_freshNodes body)
  join checker _ _ _ _ _ := .refl checker.closures
  object checker _ := .refl checker.closures
  variant checker _ := .refl checker.closures
  addField checker _ _ _ _ := .refl checker.closures
  scope inner := inner
  call {checker _ id args _} ends := by
    cases ends with
    | known | running | tooDeep | unknown => exact .refl checker.closures
    | typed closure body types after _ _ _ ran | failed closure body stop after _ _ _ ran =>
      have inner := runs (.body id args) closure.body (checker.beginBody id closure args)
      rw [ran] at inner
      exact inner
  load {checker _ file _} _ _ ends := by
    cases ends with
    | missing => exact .refl checker.closures
    | checked program typed types after _ ran | failed program typed stop after _ ran =>
      have inner := runs (.file file) program (checker.beginFile file)
      rw [ran] at inner
      exact inner

theorem runWithin_keeps (setup : Setup) (levels : Nat) (occasion : Occasion) (program : Program)
    (checker : Checker) :
    checker.closures.Keeps (runWithin setup levels occasion program checker).2.closures := by
  induction levels generalizing occasion program checker with
  | zero => exact .refl checker.closures
  | succ levels inductionHypothesis =>
    exact (keeps_flow setup inductionHypothesis).runStatements occasion program checker

end CallTyping
