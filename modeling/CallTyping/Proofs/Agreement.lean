/-
This file proves two things about all that is kept by checks, whatever they come to.
Every function type makes sense: it names a block that was remembered, with as many
parameters as this block has, and waits for arguments unless there are no parameters,
so that a body always runs with an argument for each of them. And every type in a
tree that was without types agrees with its parts in the heap at the end, however
much the heap has grown since the type was found.
-/

import CallTyping.Proofs.Filling
import Mathlib.Data.List.Induction

namespace CallTyping

/-! ### Runs -/

/-- At a moment of a check everything that was kept makes sense, and if the body of a closure begins
or ends, it runs with an argument that makes sense for each of its parameters. -/
structure Moment.Explained (served : String → Program → Prop) (moment : Moment) : Prop where
  registered : Registered served moment.checker
  fits : ∀ occasion ∈ moment.stack.head?, occasion.Fits moment.checker.stock

/-- Statements that run under a watch which allows such moments conduct themselves so. -/
theorem runWatched_registers (terms : Terms) {allowed : Moment → Prop} [DecidablePred allowed]
    (fine : ∀ moment, moment.Explained terms.served → allowed moment) (levels : Nat)
    (stack : List Occasion) : terms.Runs levels (runWatched terms.setup allowed levels stack) := by
  induction levels generalizing stack with
  | zero =>
    refine ⟨fun _ _ _ => .refl _, fun old excused occasion program checker was fits => ?_⟩
    rw [runWatched]
    exact .settle (was.intact checker.stock) fun _ registered => .exhausted registered
  | succ levels inductionHypothesis =>
    refine ⟨runWatched_restores terms.setup allowed (levels + 1) stack,
      fun old excused occasion program checker was fits => ?_⟩
    have sound := Terms.registering_sound (inductionHypothesis (occasion :: stack))
    have visited := visitNodes_fills sound excused occasion.isFile checker program was
    -- The watch sees only moments in which all is explained, so it never interferes.
    have passes (registered : Registered terms.served checker) :
        runWatched terms.setup allowed (levels + 1) stack occasion program checker =
          runStatements terms.setup (runWatched terms.setup allowed levels (occasion :: stack))
            occasion program checker := by
      have flow := visited.ends.flow registered registered
      rw [runWatched]
      refine watch_passes program ?_ ?_
      · exact fine _ ⟨registered, by rintro _ ⟨⟩; exact fits⟩
      · exact fine _ ⟨flow.registered, by rintro _ ⟨⟩; exact fits.mono flow.grows⟩
    constructor
    · intro registered
      rw [Visit.outcome, passes registered]
      exact visited.ends registered
    · intro registered
      rw [passes registered]
      exact visited.intact registered

/-! ### Checks -/

/-- What a request of a sequence may be served for a path. -/
def Served (requests : List Request) (path : String) (source : Program) : Prop :=
  ∃ request ∈ requests, request.setup.loader.load path = .ok source

/-- What is known about trees in a check after other ones. -/
def Terms.ofRequest (past : List Request) (request : Request) (typed : Prop)
    (loads : ∀ path source, request.setup.loader.load path = .ok source →
      Was (fun _ => typed) (preorderNodes source)) : Terms where
  setup := request.setup
  served := Served (past ++ [request])
  typed := typed
  serves path source loaded :=
    ⟨⟨request, List.mem_append_right _ List.mem_cons_self, loaded⟩, loads path source loaded⟩

/-- The run of a check, if everything made sense before. -/
theorem check_registers {past : List Request}
    (registered : Registered (Served past) (Checker.after past)) (request : Request)
    (typed : Prop) (loads : ∀ path source, request.setup.loader.load path = .ok source →
      Was (fun _ => typed) (preorderNodes source))
    {allowed : Moment → Prop} [DecidablePred allowed]
    (fine : ∀ moment, moment.Explained (Served (past ++ [request])) → allowed moment)
    {old : Ty → Prop} (excused : ∀ ty, old ty → typed)
    (was : Was old (preorderNodes request.program)) :
    let levels := (Checker.after past).headroom request.setup + 1
    let entered := (Checker.after past).enterFile request.file
    let ran := runWatched request.setup allowed levels [] (.file request.file) request.program
      entered
    (Terms.ofRequest past request typed loads).Registers levels entered (stopOf ran.1.2) ran.2 ∧
      Intact old ran.2.stock (preorderNodes ran.1.1) := by
  have begun : Registered (Served (past ++ [request])) ((Checker.after past).enterFile
      request.file) := by
    refine (registered.imp fun path source served => ?_).enterFile request.file
    obtain ⟨other, member, loaded⟩ := served
    exact ⟨other, List.mem_append_left _ member, loaded⟩
  have runs := runWatched_registers (Terms.ofRequest past request typed loads) fine
    ((Checker.after past).headroom request.setup + 1) []
  have fills := runs.fills old excused (.file request.file) request.program
    ((Checker.after past).enterFile request.file) was trivial
  exact ⟨fills.ends.flow begun begun, fills.intact begun⟩

/-- Between checks everything that was kept makes sense. -/
theorem after_registered (requests : List Request) :
    Registered (Served requests) (Checker.after requests) := by
  induction requests using List.reverseRecOn with
  | nil => exact .initial _
  | append_singleton past request inductionHypothesis =>
    have ran := (check_registers inductionHypothesis request True (fun _ _ _ _ _ _ _ => trivial)
      (fun _ _ => trivial) (fun _ _ => trivial) (was_carries _)).1.registered
    rw [runWatched_true] at ran
    rw [after_check]
    exact ran.leaveFile _ _ _

/-- The types in the tree that a check gives back are old ones or under the rules. -/
theorem check_intact (past : List Request) (request : Request) {old : Ty → Prop}
    (was : Was old (preorderNodes request.program)) :
    let outcome := checkFile request.setup request.file request.program (Checker.after past)
    Intact old outcome.2.stock (preorderNodes outcome.1.1) := by
  have ran := (check_registers (after_registered past) request True
    (fun _ _ _ _ _ _ _ => trivial) (fun _ _ => trivial) (fun _ _ => trivial) was).2
  rw [runWatched_true] at ran
  rw [checkFile_of_closed _ _ _ (after_closed past request.file)]
  exact ran

/-! ### Faults of the checker itself -/

/-- No node of a program has a type, nor has one of the programs that it can require. -/
structure Request.Untyped (request : Request) : Prop where
  program : Blank (preorderNodes request.program)
  served : ∀ path source, request.setup.loader.load path = .ok source →
    Blank (preorderNodes source)

/-- A check of trees without types does not stop because the checker itself went wrong. -/
theorem isInternal_of_untyped (past : List Request) {request : Request}
    (untyped : request.Untyped) {stop : Stop} (stopped : (checkFile request.setup request.file
      request.program (Checker.after past)).1.2 = .error stop) : stop.isInternal = false := by
  have ran := (check_registers (after_registered past) request False
    (fun path source loaded => (untyped.served path source loaded).was _) (fun _ _ => trivial)
    (fun _ => id) (untyped.program.was _)).1
  rw [runWatched_true] at ran
  rw [checkFile_of_closed _ _ _ (after_closed past request.file), ← stopOf_eq_some, stopOf_map]
    at stopped
  exact Bool.eq_false_iff.mpr fun own => ran.proper stop stopped own

/-! ### Function types -/

open Classical in
/-- Between checks, and at every moment of a check at which the statements of a file or of a body
begin or end, exactly the identities below the next one are those of blocks, and every type that
was kept makes sense, whatever trees were checked and whatever came of it. Types in trees that were
given or served with types are exempt. The parameters of every recorded call are bound one by
one. -/
theorem function_types_make_sense (past : List Request) (request : Request) :
    let checker := Checker.after past
    let outcome := checkFile request.setup request.file request.program checker
    Registered (Served past) checker ∧
      Always (fun moment => moment.Explained (Served (past ++ [request]))) request checker ∧
      (∀ id, ∀ entry ∈ checker.cache.of id, ∃ closure, checker.closures.get? id = some closure ∧
        (closure.params.zip entry.args).unzip = (closure.params, entry.args)) ∧
      ∀ node ∈ preorderNodes outcome.1.1, ∀ ty, node.slot = some ty →
        Carries (preorderNodes request.program) ty ∨ outcome.2.stock.Explains ty := by
  have registered := after_registered past
  refine ⟨registered, ?_, fun id entry member => ?_, fun node member ty typed => ?_⟩
  · have fine : ∀ moment : Moment, moment.Explained (Served (past ++ [request])) →
        moment.Explained (Served (past ++ [request])) := fun _ explained => explained
    have ran := (check_registers registered request True (fun _ _ _ _ _ _ _ => trivial)
      fine (fun _ _ => trivial) (was_carries _)).1
    have ends := ran.settled.ends
      (Nat.lt_succ_of_le (headroom_enterFile_le request.setup (Checker.after past) request.file))
      (callDepth_after past request.setup)
    rw [Always, checkWatched, checkWith_closed _ _ _ _ (after_closed past request.file)]
    exact fun gaveUp => ends (by rw [← stopOf_map (fun _ => ()), stopOf_eq_some]; exact gaveUp)
  · obtain ⟨closure, known, params⟩ := (registered.calls id entry member).known
    exact ⟨closure, known, List.unzip_zip params⟩
  · exact (check_intact past request (was_carries _) node member ty typed).imp_right And.left

/-! ### Types and the heap -/

/-- After a check of a program without types, all types in its tree agree with the heap, and so do
those in the trees of required files that were served without types, and in all typed bodies. -/
theorem types_agree_with_heap (past : List Request) (request : Request)
    (untyped : Blank (preorderNodes request.program)) :
    let outcome := checkFile request.setup request.file request.program (Checker.after past)
    Consistent outcome.2.heap (preorderNodes outcome.1.1) ∧
      (∀ path tree, outcome.2.modules.get? path = some tree →
        (∀ source, Served (past ++ [request]) path source → Blank (preorderNodes source)) →
          Consistent outcome.2.heap (preorderNodes tree)) ∧
      ∀ id, ∀ entry ∈ outcome.2.cache.of id, ∀ body ∈ entry.body?,
        Consistent outcome.2.heap (preorderNodes body) := by
  have registered := after_registered (past ++ [request])
  rw [after_append] at registered
  refine ⟨(check_intact past request (untyped.was _)).consistent, fun path tree known blank => ?_,
    fun id entry member body typed =>
      ((registered.calls id entry member).body body typed).consistent⟩
  obtain ⟨source, served, intact⟩ := registered.modules path tree known
  rw [carries_of_blank (blank source served)] at intact
  exact intact.consistent

/-- An object literal that gives a name twice, and an object that is put into a field of its own. -/
def ownField : Request :=
  ⟨.standard, "main.brie",
    [.untyped .origin (.define "o" (.untyped .origin (.object
      [.mk "a" (.untyped .origin (.literal (.integer 1))),
       .mk "a" (.untyped .origin (.literal (.bool true)))]))),
     .untyped .origin (.update (.untyped .origin (.dot (.untyped .origin (.ident "o")) "b"))
       (.untyped .origin (.ident "o")))]⟩

/-- The check passes, and what the two statements have made of the object agrees with it. -/
theorem ownField_agrees :
    let outcome := checkFile ownField.setup ownField.file ownField.program (Checker.after [])
    outcome.1.2.isOk = true ∧
      (preorderNodes outcome.1.1).all Node.isTyped = true ∧
      (outcome.2.heap.fields ⟨0⟩).keys = ["a", "b"] ∧
      Consistent outcome.2.heap (preorderNodes outcome.1.1) := by
  refine ⟨by decide +kernel, by decide +kernel, by decide +kernel, ?_⟩
  exact (types_agree_with_heap [] ownField (by unfold Blank; decide)).1

end CallTyping
