/-
This file proves that the body of a function does not reach the top level of any
file by itself. Only the direct statements of a file define names there, and
requires do; everything below a statement names types in the innermost scope. So a
pass that is not at the top level leaves all tables of top-level names as they are
unless it comes to a require, and the log tells whether it does.
-/

import CallTyping.Proofs.Course

namespace CallTyping

/-! ### Requires in the log -/

/-- Whether an event tells that a require is visited. -/
def Event.isRequire : Event → Bool
  | .visiting kind _ => kind == "require"
  | _ => false

/-- The number of requires that have been visited. -/
def Checker.requires (checker : Checker) : Nat := checker.log.countP Event.isRequire

theorem requires_record (checker : Checker) (event : Event) :
    checker.requires ≤ { checker with log := checker.log.push event : Checker }.requires := by
  unfold Checker.requires
  rw [Array.countP_push]
  exact Nat.le_add_right _ _

theorem requires_visiting (checker : Checker) (name : String) (span : Span) :
    checker.requires <
      { checker with log := checker.log.push (.visiting (Expr.require name).kindName span) :
        Checker }.requires := by
  unfold Checker.requires
  rw [Array.countP_push]
  exact Nat.lt_succ_self _

theorem Event.isRequire_of_other {event : Event} (other : event.isOfRequire = false) :
    event.isRequire = false := by
  cases event with
  | visiting kind span => exact other
  | _ => rfl

theorem requires_aside {before after : Checker} (aside : Aside before after) :
    after.requires = before.requires := by
  obtain ⟨events, log, others⟩ := aside.log
  have none : events.countP Event.isRequire = 0 := Array.countP_eq_zero.mpr fun event member => by
    rw [Event.isRequire_of_other (others event member)]
    exact Bool.false_ne_true
  rw [Checker.requires, log, Array.countP_append, none]
  rfl

/-- Requires are counted as they come, and the count never goes back. -/
theorem requires_flow (setup : Setup) {run : Runner}
    (counts : ∀ occasion program (checker : Checker),
      checker.requires ≤ (run occasion program checker).2.requires) :
    Flow (fun before _ after => before.requires ≤ after.requires) setup run where
  still checker := Nat.le_refl checker.requires
  trans := Nat.le_trans
  fault checker _ _ _ := Nat.le_refl checker.requires
  record := requires_record
  inlay checker _ _ := Nat.le_refl checker.requires
  bind checker _ _ _ := Nat.le_refl checker.requires
  define checker _ _ _ := Nat.le_refl checker.requires
  block checker _ _ _ := Nat.le_refl checker.requires
  join checker _ _ _ _ _ := Nat.le_refl checker.requires
  object checker _ := Nat.le_refl checker.requires
  variant checker _ := Nat.le_refl checker.requires
  addField checker _ _ _ _ := Nat.le_refl checker.requires
  scope more := more
  call {checker _ id args _} ends := by
    cases ends with
    | known => exact requires_record checker _
    | running | tooDeep | unknown => exact Nat.le_refl checker.requires
    | typed closure body types after _ _ _ ran | failed closure body stop after _ _ _ ran =>
      have more := counts (.body id args) closure.body (checker.beginBody id closure args)
      rw [ran] at more
      exact Nat.le_trans (requires_record checker _) more
  load {checker _ file _} _ _ ends := by
    cases ends with
    | missing => exact Nat.le_refl checker.requires
    | checked program typed types after _ ran | failed program typed stop after _ ran =>
      have more := counts (.file file) program (checker.beginFile file)
      rw [ran] at more
      exact Nat.le_trans (requires_record checker _) more

theorem runWithin_requires (setup : Setup) (levels : Nat) (occasion : Occasion)
    (program : Program) (checker : Checker) :
    checker.requires ≤ (runWithin setup levels occasion program checker).2.requires := by
  induction levels generalizing occasion program checker with
  | zero => exact Nat.le_refl checker.requires
  | succ levels inductionHypothesis =>
    exact (requires_flow setup inductionHypothesis).runStatements occasion program checker

/-! ### Passes below the top level -/

/-- Unless a require has been visited in between, the top level of every file is as before. -/
structure Inward (before after : Checker) : Prop where
  requires : before.requires ≤ after.requires
  toplevel : after.requires = before.requires →
    after.bindings.toplevel = before.bindings.toplevel

namespace Inward

variable {setup : Setup} {run : Runner} {before middle after : Checker}

theorem refl (checker : Checker) : Inward checker checker := ⟨Nat.le_refl _, fun _ => rfl⟩

theorem trans (left : Inward before middle) (right : Inward middle after) :
    Inward before after where
  requires := Nat.le_trans left.requires right.requires
  toplevel none := by
    have first : middle.requires = before.requires :=
      Nat.le_antisymm (none ▸ right.requires) left.requires
    exact (right.toplevel (none.trans first.symm)).trans (left.toplevel first)

theorem record (checker : Checker) (event : Event) :
    Inward checker { checker with log := checker.log.push event } :=
  ⟨requires_record checker event, fun _ => rfl⟩

/-- Parameters are not bound at the top level. -/
theorem enterBody_toplevel (checker : Checker) (closure : Closure) (args : List Ty) :
    (checker.enterBody closure args).bindings.toplevel = checker.bindings.toplevel := by
  unfold Checker.enterBody
  dsimp only
  generalize closure.params.zip args = given
  suffices ∀ bindings : Bindings, (given.foldl (fun bindings entry =>
      bindings.bind entry.1 ⟨entry.2, closure.span⟩) bindings).toplevel = bindings.toplevel from
    this _
  induction given with
  | nil => exact fun _ => rfl
  | cons _ rest inductionHypothesis => exact fun bindings => inductionHypothesis _

/-- After a require has been visited nothing more is said about the top level. -/
theorem visitRequire (counted : Flow (fun before _ after => before.requires ≤ after.requires)
      setup run) (toplevel : Bool) (span : Span) (slot : Option Ty) (name : String)
    (checker : Checker) :
    Inward checker
      (visitNode setup run toplevel (.mk span slot (.require name)) checker).2 := by
  have counts : checker.requires <
      (visitNode setup run toplevel (.mk span slot (.require name)) checker).2.requires := by
    refine Nat.lt_of_lt_of_le (requires_visiting checker name span) ?_
    unfold visitNode
    cases slot with
    | some ty => exact Nat.le_refl _
    | none =>
      have more := (counted.sound.typeOfRequire span name
        { checker with log := checker.log.push (.visiting (Expr.require name).kindName span) }).flow
      unfold visitExpr
      exact more
  exact ⟨Nat.le_of_lt counts, fun none => absurd none (Nat.ne_of_gt counts)⟩

theorem course (counted : Flow (fun before _ after => before.requires ≤ after.requires) setup run)
    (body : ∀ id args program checker, Inward checker (run (.body id args) program checker).2) :
    Course (fun _ => True) Inward setup run where
  aside aside := ⟨Nat.le_of_eq (requires_aside aside).symm,
    fun _ => congrArg Bindings.toplevel aside.bindings⟩
  trans := trans
  bind _ _ _ := ⟨Nat.le_refl _, fun _ => rfl⟩
  block _ _ _ _ _ := ⟨Nat.le_refl _, fun _ => rfl⟩
  scope inner := ⟨inner.requires, inner.toplevel⟩
  call {checker _ id args _} ends := by
    cases ends with
    | known => exact .record checker _
    | running => exact .refl checker
    | tooDeep | unknown => exact ⟨Nat.le_refl _, fun _ => rfl⟩
    | typed closure typed types after _ _ _ ran | failed closure typed stop after _ _ _ ran =>
      have enters : Inward checker (checker.beginBody id closure args) :=
        (record checker (.specializing id (args.map checker.heap.text))).trans
          ⟨Nat.le_refl _, fun _ => enterBody_toplevel _ closure args⟩
      have runs := body id args closure.body (checker.beginBody id closure args)
      rw [ran] at runs
      exact ⟨(enters.trans runs).requires, (enters.trans runs).toplevel⟩
  require toplevel span slot name checker _ :=
    visitRequire counted toplevel span slot name checker

end Inward

/-- Bodies, and what is below the statements of a file, change top-level names only by requires. -/
theorem runWithin_inward (setup : Setup) (levels : Nat) :
    Course (fun _ => True) Inward setup (runWithin setup levels) := by
  refine Inward.course (requires_flow setup (runWithin_requires setup levels)) ?_
  induction levels with
  | zero => exact fun _ _ _ checker => .refl checker
  | succ levels inductionHypothesis =>
    have inner := Inward.course (requires_flow setup (runWithin_requires setup levels))
      inductionHypothesis
    exact fun _ _ program checker =>
      inner.visitNodes Course.below checker program fun _ _ => trivial

end CallTyping
