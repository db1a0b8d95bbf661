/-
This file makes it possible to speak of what happens in the middle of a check. The
moments of a check are those at which statements begin or end to run: the top level
of a file, or the body of a closure. A watched check stops as soon as a moment
comes that is not allowed. All moments of a check are allowed exactly if watching
it does not stop it.
-/

import CallTyping.Proofs.Excursion

namespace CallTyping

/-! ### Sequences of checks -/

/-- A program to be checked, and all that is chosen for its check. -/
structure Request where
  setup : Setup
  file : String
  program : Program

/-- One check of a sequence. -/
def Checker.checked (checker : Checker) (request : Request) : Checker :=
  (checkFile request.setup request.file request.program checker).2

/-- A checker that has checked one program after the other, whatever came of them. -/
def Checker.after (requests : List Request) : Checker :=
  requests.foldl Checker.checked .initial

theorem after_append (past : List Request) (request : Request) :
    Checker.after (past ++ [request]) = (Checker.after past).checked request := by
  rw [Checker.after, List.foldl_append]
  rfl

/-! ### Moments -/

/-- Whether statements begin to run or have come to their end, and why they stopped if they did. -/
inductive Phase where
  | entering
  | leaving (stop : Option Stop)

/-- A moment in a check: for what the statements run, from the innermost to the outermost
occasion, and the state. -/
structure Moment where
  stack : List Occasion
  phase : Phase
  checker : Checker

/-- Visits statements, and stops at the beginning or the end if that moment is not allowed. -/
def watch (allowed : Moment → Prop) [DecidablePred allowed] (stack : List Occasion)
    (program : Program) (visit : Visit Program (List Ty)) : Visit Program (List Ty) :=
  fun checker =>
    if allowed ⟨stack, .entering, checker⟩ then
      let (visited, ended) := visit checker
      if allowed ⟨stack, .leaving (stopOf visited.2), ended⟩ then
        (visited, ended)
      else
        ((visited.1, .error .exhausted), ended)
    else
      ((program, .error .exhausted), checker)

/-- A visit is not stopped where its beginning and its end are allowed. -/
theorem watch_passes {allowed : Moment → Prop} [DecidablePred allowed] {stack : List Occasion}
    (program : Program) {visit : Visit Program (List Ty)} {checker : Checker}
    (enters : allowed ⟨stack, .entering, checker⟩)
    (leaves : allowed ⟨stack, .leaving (stopOf (visit checker).1.2), (visit checker).2⟩) :
    watch allowed stack program visit checker = visit checker :=
  (if_pos enters).trans (if_pos leaves)

/-- What a watched visit comes to. -/
inductive WatchEnds (allowed : Moment → Prop) (stack : List Occasion) (program : Program)
    (visit : Visit Program (List Ty)) (checker : Checker) :
    (Program × Except Stop (List Ty)) × Checker → Prop where
  | passed (enters : allowed ⟨stack, .entering, checker⟩)
      (leaves : allowed ⟨stack, .leaving (stopOf (visit checker).1.2), (visit checker).2⟩) :
      WatchEnds allowed stack program visit checker (visit checker)
  | refusedLeaving (enters : allowed ⟨stack, .entering, checker⟩)
      (refused : ¬allowed ⟨stack, .leaving (stopOf (visit checker).1.2), (visit checker).2⟩) :
      WatchEnds allowed stack program visit checker
        (((visit checker).1.1, .error .exhausted), (visit checker).2)
  | refusedEntering (refused : ¬allowed ⟨stack, .entering, checker⟩) :
      WatchEnds allowed stack program visit checker ((program, .error .exhausted), checker)

theorem watch_ends (allowed : Moment → Prop) [DecidablePred allowed] (stack : List Occasion)
    (program : Program) (visit : Visit Program (List Ty)) (checker : Checker) :
    WatchEnds allowed stack program visit checker (watch allowed stack program visit checker) := by
  unfold watch
  split
  next enters =>
    dsimp only
    split
    next leaves => exact .passed enters leaves
    next refused => exact .refusedLeaving enters refused
  next refused => exact .refusedEntering refused

variable (setup : Setup) (allowed : Moment → Prop) [DecidablePred allowed]

/-- Runs statements inside of others as long as all moments are allowed. -/
def runWatched : Nat → List Occasion → Runner
  | 0, _ => fun _ program => .settle program (throw .exhausted)
  | levels + 1, stack => fun occasion program =>
    watch allowed (occasion :: stack) program
      (runStatements setup (runWatched levels (occasion :: stack)) occasion program)

theorem runWatched_ends (levels : Nat) (stack : List Occasion) (occasion : Occasion)
    (program : Program) (checker : Checker) :
    WatchEnds allowed (occasion :: stack) program
      (runStatements setup (runWatched setup allowed levels (occasion :: stack)) occasion program)
      checker (runWatched setup allowed (levels + 1) stack occasion program checker) :=
  watch_ends _ _ _ _ _

/-- A check under watch. -/
def checkWatched (request : Request) (checker : Checker) : (Program × Except Stop Unit) × Checker :=
  checkWith (runWatched request.setup allowed (checker.headroom request.setup + 1) [])
    request.file request.program checker

/-- All moments of a check are allowed. -/
def Always (request : Request) (checker : Checker) : Prop :=
  (checkWatched allowed request checker).1.2 ≠ .error .exhausted

instance (request : Request) (checker : Checker) : Decidable (Always allowed request checker) :=
  match ended : (checkWatched allowed request checker).1.2 with
  | .error .exhausted => .isFalse fun always => always ended
  | .error (.fault _) => .isTrue fun gaveUp => nomatch ended.symm.trans gaveUp
  | .ok () => .isTrue fun gaveUp => nomatch ended.symm.trans gaveUp

/-! ### Watching everything -/

theorem runWatched_true (levels : Nat) (stack : List Occasion) :
    runWatched setup (fun _ => True) levels stack = runWithin setup levels := by
  induction levels generalizing stack with
  | zero => rfl
  | succ levels inductionHypothesis =>
    funext occasion program checker
    simp only [runWatched, runWithin, watch, inductionHypothesis, if_true]

theorem checkWatched_true (request : Request) (checker : Checker) :
    checkWatched (fun _ => True) request checker =
      checkFile request.setup request.file request.program checker := by
  rw [checkWatched, runWatched_true, checkFile]

end CallTyping
