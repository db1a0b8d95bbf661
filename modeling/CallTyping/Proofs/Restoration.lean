/-
This file proves that a pass puts back where it is: after any pass, whether it
answers or stops, the scopes, the current file, the depth of calls and the files
that are being checked are those from before. Calls and loads change all four on
their way in, and take the change back on their way out.
-/

import CallTyping.Proofs.Conduct
import CallTyping.Proofs.Moment

namespace CallTyping

/-- A state is at the same place as another one. -/
structure Restored (before after : Checker) : Prop where
  scopes : after.bindings.scopes = before.bindings.scopes
  file : after.file = before.file
  callDepth : after.callDepth = before.callDepth
  openFiles : after.openFiles = before.openFiles

namespace Restored

theorem refl (checker : Checker) : Restored checker checker := ⟨rfl, rfl, rfl, rfl⟩

theorem trans {first second third : Checker} (left : Restored first second)
    (right : Restored second third) : Restored first third :=
  ⟨right.scopes.trans left.scopes, right.file.trans left.file,
    right.callDepth.trans left.callDepth, right.openFiles.trans left.openFiles⟩

/-- Places are the same for all purposes of the bound on nesting. -/
theorem headroom {before after : Checker} (restored : Restored before after) (setup : Setup) :
    after.headroom setup = before.headroom setup := by
  simp only [Checker.headroom, Checker.isOpen, restored.callDepth, restored.openFiles]

end Restored

/-! ### Calls and files -/

theorem leaveBody_restores {checker after : Checker} {id : ClosureId} {closure : Closure}
    {args : List Ty} (restored : Restored (checker.beginBody id closure args) after) :
    Restored checker (after.leaveBody checker.file checker.bindings.scopes) where
  scopes := rfl
  file := rfl
  callDepth := by
    rw [Checker.leaveBody, restored.callDepth]
    rfl
  openFiles := restored.openFiles

theorem closeFile_openFile {checker : Checker} {file : String}
    (closed : checker.isOpen file = false) :
    (checker.openFile file).openFiles.filter (· ≠ file) = checker.openFiles := by
  have absent : file ∉ checker.openFiles := by simpa [Checker.isOpen] using closed
  rw [Checker.openFile, closed, if_neg Bool.false_ne_true,
    List.filter_cons_of_neg (by simp)]
  exact List.filter_eq_self.mpr fun other member =>
    decide_eq_true fun equal => absent (equal ▸ member)

theorem leaveFile_restores {checker after : Checker} {file : String}
    (restored : Restored (checker.enterFile file) after) (closed : checker.isOpen file = false) :
    Restored checker (after.leaveFile file checker.file checker.bindings.scopes) where
  scopes := rfl
  file := rfl
  callDepth := restored.callDepth
  openFiles := by
    show after.openFiles.filter (· ≠ file) = checker.openFiles
    rw [restored.openFiles]
    exact closeFile_openFile closed

theorem restored_flow (setup : Setup) {run : Runner}
    (restores : ∀ occasion program checker, Restored checker (run occasion program checker).2) :
    Flow (fun before _ after => Restored before after) setup run where
  still := Restored.refl
  trans := Restored.trans
  fault checker _ _ _ := .refl checker
  record checker _ := ⟨rfl, rfl, rfl, rfl⟩
  inlay checker _ _ := ⟨rfl, rfl, rfl, rfl⟩
  bind checker _ _ _ := ⟨rfl, rfl, rfl, rfl⟩
  define checker _ _ _ := ⟨rfl, rfl, rfl, rfl⟩
  block checker _ _ _ := ⟨rfl, rfl, rfl, rfl⟩
  join checker _ _ _ _ _ := ⟨rfl, rfl, rfl, rfl⟩
  object checker _ := ⟨rfl, rfl, rfl, rfl⟩
  variant checker _ := ⟨rfl, rfl, rfl, rfl⟩
  addField checker _ _ _ _ := ⟨rfl, rfl, rfl, rfl⟩
  scope {checker after _} restored :=
    ⟨by
      show after.bindings.scopes.pop = checker.bindings.scopes
      rw [restored.scopes]
      rfl, restored.file, restored.callDepth, restored.openFiles⟩
  call {checker _ id args _} ends := by
    cases ends with
    | known => exact ⟨rfl, rfl, rfl, rfl⟩
    | running => exact .refl checker
    | tooDeep | unknown => exact ⟨rfl, rfl, rfl, rfl⟩
    | typed closure body types after _ _ _ ran | failed closure body stop after _ _ _ ran =>
      have restored := restores (.body id args) closure.body (checker.beginBody id closure args)
      rw [ran] at restored
      have back := leaveBody_restores restored
      exact ⟨back.scopes, back.file, back.callDepth, back.openFiles⟩
  load {checker _ file _} closed _ ends := by
    cases ends with
    | missing => exact ⟨rfl, rfl, rfl, rfl⟩
    | checked program typed types after _ ran | failed program typed stop after _ ran =>
      have restored := restores (.file file) program (checker.beginFile file)
      rw [ran] at restored
      have back := leaveFile_restores restored closed
      exact ⟨back.scopes, back.file, back.callDepth, back.openFiles⟩

/-! ### Runs and checks -/

variable (setup : Setup) (allowed : Moment → Prop) [DecidablePred allowed]

/-- A watched run ends where it begins. -/
theorem runWatched_restores (levels : Nat) (stack : List Occasion) (occasion : Occasion)
    (program : Program) (checker : Checker) :
    Restored checker (runWatched setup allowed levels stack occasion program checker).2 := by
  induction levels generalizing stack occasion program checker with
  | zero => exact .refl checker
  | succ levels inductionHypothesis =>
    have visited := (restored_flow setup (inductionHypothesis (occasion :: stack))).runStatements
      occasion program checker
    have ends := runWatched_ends setup allowed levels stack occasion program checker
    generalize runWatched setup allowed (levels + 1) stack occasion program checker = outcome
      at ends ⊢
    cases ends with
    | passed | refusedLeaving => exact visited
    | refusedEntering => exact .refl checker

theorem runWithin_restores (levels : Nat) (occasion : Occasion) (program : Program)
    (checker : Checker) : Restored checker (runWithin setup levels occasion program checker).2 := by
  rw [← runWatched_true setup levels []]
  exact runWatched_restores setup _ levels [] occasion program checker

/-- A check ends where it begins. -/
theorem checked_restores (checker : Checker) (request : Request) :
    Restored checker (checker.checked request) := by
  unfold Checker.checked checkFile
  cases opened : checker.isOpen request.file with
  | true =>
    rw [checkWith_open _ _ _ _ opened]
    exact .refl checker
  | false =>
    rw [checkWith_closed _ _ _ _ opened]
    exact leaveFile_restores (runWithin_restores _ _ _ _ _) opened

/-- After any number of checks no file is open and no body is being typed. -/
theorem after_restores (requests : List Request) :
    Restored .initial (Checker.after requests) := by
  suffices ∀ checker, Restored checker (requests.foldl Checker.checked checker) from this .initial
  induction requests with
  | nil => exact Restored.refl
  | cons request rest inductionHypothesis =>
    exact fun checker => (checked_restores checker request).trans (inductionHypothesis _)

/-- No file is open between checks. -/
theorem after_closed (past : List Request) (file : String) :
    (Checker.after past).isOpen file = false := by
  rw [Checker.isOpen, (after_restores past).openFiles]
  rfl

/-! ### All exits -/

/-- A load or a check of a file that is not open yet ends where it begins. -/
theorem runFile_restores (setup : Setup) (levels : Nat) (file : String) (program : Program)
    {before : Checker} (closed : before.isOpen file = false) :
    Restored before (runFile (runWithin setup levels) file program before).2 :=
  leaveFile_restores (runWithin_restores setup levels (.file file) program _) closed

theorem checkFile_of_closed (setup : Setup) (file : String) (program : Program)
    {checker : Checker} (closed : checker.isOpen file = false) :
    checkFile setup file program checker =
      let ran := runFile (runWithin setup (checker.headroom setup + 1)) file program checker
      ((ran.1.1, ran.1.2.map fun _ => ()), ran.2) :=
  checkWith_closed _ _ _ _ closed

theorem after_check (past : List Request) (request : Request) :
    Checker.after (past ++ [request]) =
      (runFile (runWithin request.setup ((Checker.after past).headroom request.setup + 1))
        request.file request.program (Checker.after past)).2 := by
  rw [after_append, Checker.checked, checkFile_of_closed _ _ _ (after_closed past request.file)]

/-- Every visit of a node and every run of a file puts back the scopes, the current file, the depth
of calls and the open files, whether it answers or stops. So no check of a sequence finds a file
open or a body being typed, and each of them runs its statements. -/
theorem every_exit_restores (setup : Setup) (levels : Nat) :
    (∀ toplevel node before,
      Restored before (visitNode setup (runWithin setup levels) toplevel node before).2) ∧
    (∀ file program before, before.isOpen file = false →
      Restored before (runFile (runWithin setup levels) file program before).2) ∧
    (∀ checker request, Restored checker (Checker.checked checker request)) ∧
    ∀ past file program,
      let checker := Checker.after past
      checker.openFiles = [] ∧ checker.callDepth = 0 ∧ checker.isOpen file = false ∧
        checkFile setup file program checker =
          let ran := runFile (runWithin setup (checker.headroom setup + 1)) file program checker
          ((ran.1.1, ran.1.2.map fun _ => ()), ran.2) := by
  refine ⟨fun toplevel node before => ?_, fun file program before closed => ?_,
    checked_restores, fun past file program => ?_⟩
  · have kept := restored_flow setup (runWithin_restores setup levels)
    exact (kept.sound.visitNode toplevel before node).flow
  · exact runFile_restores setup levels file program closed
  · have restored := after_restores past
    have closed : (Checker.after past).isOpen file = false := by
      rw [Checker.isOpen, restored.openFiles]
      rfl
    exact ⟨restored.openFiles, restored.callDepth, closed,
      checkFile_of_closed setup file program closed⟩

/-- A function of a required file whose body fails in the arm of a match. -/
def failingArm : Sources :=
  .singleton "lib.brie" [.untyped .origin (.define "f" (.untyped .origin (.block ["p"]
    [.untyped .origin (.caseOf (.untyped .origin (.ident "p"))
      [.mk .origin "A" [.untyped .origin (.ident "x")]
        [.untyped .origin (.dot (.untyped .origin (.ident "x")) "missing")]])])))]

/-- A call of that function from another file. -/
def failingCall : Program :=
  [.untyped .origin (.require "lib"),
   .untyped .origin (.call
    [.untyped .origin (.dot (.untyped .origin (.ident "lib")) "f"),
     .untyped .origin (.variant "A" [.untyped .origin (.literal (.bool true))])])]

/-- A fault in an arm, in a body of another file, is met with everything put back. -/
theorem failingCall_restores :
    let setup : Setup := ⟨.standard, .standard, failingArm.loader⟩
    let ran := runFile (runWithin setup 4) "main.brie" failingCall .initial
    Checker.initial.isOpen "main.brie" = false ∧ ran.1.2.isOk = false ∧
      ran.2.closures.count = 1 ∧ Restored .initial ran.2 :=
  ⟨rfl, by decide +kernel, by decide +kernel,
    (every_exit_restores _ 4).2.1 "main.brie" failingCall .initial rfl⟩

end CallTyping
