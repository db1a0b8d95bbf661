/-
This file proves that checks come to an end. A body can be entered only while
calls may still be nested, and a file only if it is not being checked already and
can be loaded. Each entrance uses up some of the headroom, and all other work is
recursion over a finite tree. So the bound under which a check runs is never met,
nothing that stands beyond it is ever run, and bodies are never nested beyond the
limit. Comparisons of types end for a reason of their own.
-/

import CallTyping.Proofs.ComparisonDepth
import CallTyping.Proofs.Restoration
import CallTyping.Proofs.Truncation

namespace CallTyping

/-! ### Headroom -/

theorem headroom_beginBody {setup : Setup} {checker : Checker} (id : ClosureId)
    (closure : Closure) (args : List Ty)
    (shallow : checker.callDepth < setup.settings.depthLimit) :
    (checker.beginBody id closure args).headroom setup < checker.headroom setup := by
  show setup.settings.depthLimit - (checker.callDepth + 1) + _ <
    setup.settings.depthLimit - checker.callDepth + _
  exact Nat.add_lt_add_right (by omega) _

theorem isOpen_enterFile (checker : Checker) (file path : String) :
    (checker.enterFile file).isOpen path = (checker.isOpen path || decide (path = file)) := by
  unfold Checker.enterFile Checker.openFile Checker.isOpen
  by_cases known : file ∈ checker.openFiles
  · by_cases same : path = file
    · subst same
      simp [known]
    · simp [known, same]
  · simp [known, Bool.or_comm]

theorem isOpen_leaveFile (checker : Checker) (file previous path : String) (scopes : Scopes) :
    (checker.leaveFile file previous scopes).isOpen path =
      (checker.isOpen path && decide (path ≠ file)) := by
  show decide (path ∈ checker.openFiles.filter (· ≠ file)) = _
  simp [Checker.isOpen]

/-- The files that are left after one more was entered. -/
theorem closed_enterFile (setup : Setup) (checker : Checker) (file : String) :
    setup.loader.paths.filter (fun path => !(checker.enterFile file).isOpen path) =
      (setup.loader.paths.filter fun path => !checker.isOpen path).filter (· ≠ file) := by
  rw [List.filter_filter]
  refine List.filter_congr fun path _ => ?_
  rw [isOpen_enterFile, Bool.not_or, Bool.and_comm]
  simp

/-- A file that is entered leaves at most as much headroom as before. -/
theorem headroom_enterFile_le (setup : Setup) (checker : Checker) (file : String) :
    (checker.enterFile file).headroom setup ≤ checker.headroom setup := by
  unfold Checker.headroom
  rw [closed_enterFile]
  exact Nat.add_le_add_left (List.length_filter_le _ _) _

/-- A file that can be loaded and was not open uses up headroom. -/
theorem headroom_enterFile_lt {setup : Setup} {checker : Checker} {file : String}
    {program : Program} (loaded : setup.loader.load file = .ok program)
    (closed : checker.isOpen file = false) :
    (checker.enterFile file).headroom setup < checker.headroom setup := by
  unfold Checker.headroom
  rw [closed_enterFile]
  refine Nat.add_lt_add_left (List.length_filter_lt_length_iff_exists.mpr ⟨file, ?_, by simp⟩) _
  exact List.mem_filter.mpr ⟨setup.loader.mem_paths file program loaded, by rw [closed]; rfl⟩

/-! ### Passes that are not exhausted -/

/-- A pass that ends where it began, and for a better reason than the bound if there is enough
headroom below it. -/
structure Settled (setup : Setup) (levels : Nat) (before : Checker) (stop : Option Stop)
    (after : Checker) : Prop where
  restored : Restored before after
  ends : before.headroom setup < levels → before.callDepth ≤ setup.settings.depthLimit →
    stop ≠ some .exhausted

namespace Settled

variable {setup : Setup} {levels : Nat}

theorem answered {before after : Checker} (restored : Restored before after) :
    Settled setup levels before none after := ⟨restored, fun _ _ => nofun⟩

theorem faulted {before after : Checker} {error : TypeError} (restored : Restored before after) :
    Settled setup levels before (some (.fault error)) after := ⟨restored, fun _ _ => nofun⟩

theorem trans {first second third : Checker} {stop : Option Stop}
    (left : Settled setup levels first none second)
    (right : Settled setup levels second stop third) : Settled setup levels first stop third := by
  refine ⟨left.restored.trans right.restored, fun enough shallow => right.ends ?_ ?_⟩
  · rwa [left.restored.headroom]
  · rwa [left.restored.callDepth]

end Settled

section

variable {setup : Setup} {run : Runner} {levels : Nat}

theorem call_settled (settles : ∀ occasion program checker,
      Settled setup levels checker (stopOf (run occasion program checker).1.2)
        (run occasion program checker).2)
    {span : Span} {id : ClosureId} {args : List Ty} {checker : Checker}
    {outcome : Except Stop Ty × Checker} (restored : Restored checker outcome.2)
    (ends : CallEnds setup run span id args checker outcome) :
    Settled setup (levels + 1) checker (stopOf outcome.1) outcome.2 := by
  cases ends with
  | known | typed => exact .answered restored
  | running | tooDeep | unknown => exact .faulted restored
  | failed closure body stop after _ shallow _ ran =>
    refine ⟨restored, fun enough _ => ?_⟩
    have inner := settles (.body id args) closure.body (checker.beginBody id closure args)
    rw [ran] at inner
    refine inner.ends ?_ shallow
    have less := headroom_beginBody id closure args shallow
    omega

theorem load_settled (settles : ∀ occasion program checker,
      Settled setup levels checker (stopOf (run occasion program checker).1.2)
        (run occasion program checker).2)
    {span : Span} {file : String} {checker : Checker} {outcome : Except Stop Unit × Checker}
    (closed : checker.isOpen file = false) (restored : Restored checker outcome.2)
    (ends : LoadEnds setup run span file checker outcome) :
    Settled setup (levels + 1) checker (stopOf outcome.1) outcome.2 := by
  cases ends with
  | missing => exact .faulted restored
  | checked => exact .answered restored
  | failed program typed stop after loaded ran =>
    refine ⟨restored, fun enough shallow => ?_⟩
    have inner := settles (.file file) program (checker.beginFile file)
    rw [ran] at inner
    refine inner.ends ?_ shallow
    have less : (checker.beginFile file).headroom setup < checker.headroom setup :=
      headroom_enterFile_lt loaded closed
    omega

theorem settled_flow (settles : ∀ occasion program checker,
      Settled setup levels checker (stopOf (run occasion program checker).1.2)
        (run occasion program checker).2) :
    Flow (Settled setup (levels + 1)) setup run :=
  have kept := restored_flow setup fun occasion program checker =>
    (settles occasion program checker).restored
  { still := fun checker => .answered (kept.still checker)
    trans := .trans
    fault := fun checker _ _ _ => .faulted (.refl checker)
    record := fun checker event => .answered (kept.record checker event)
    inlay := fun checker span ty => .answered (kept.inlay checker span ty)
    bind := fun checker name ty span => .answered (kept.bind checker name ty span)
    define := fun checker name ty span => .answered (kept.define checker name ty span)
    block := fun checker params body span => .answered (kept.block checker params body span)
    join := fun checker left right ty grown joined =>
      .answered (kept.join checker left right ty grown joined)
    object := fun checker fields => .answered (kept.object checker fields)
    variant := fun checker tags => .answered (kept.variant checker tags)
    addField := fun checker id name ty new => .answered (kept.addField checker id name ty new)
    scope := fun settled =>
      ⟨@Flow.scope _ _ _ kept _ _ none settled.restored, fun enough shallow =>
        settled.ends enough shallow⟩
    call := fun ends => call_settled settles (kept.call ends) ends
    load := fun closed unknown ends =>
      load_settled settles closed (kept.load closed unknown ends) ends }

end

/-! ### Runs and checks -/

section

variable {setup : Setup} {allowed : Moment → Prop} [DecidablePred allowed]

/-- Watching stops no run at moments within the limit. -/
theorem runWatched_settled
    (fine : ∀ moment, moment.checker.callDepth ≤ setup.settings.depthLimit → allowed moment)
    (levels : Nat) (stack : List Occasion) (occasion : Occasion) (program : Program)
    (checker : Checker) :
    Settled setup levels checker
      (stopOf (runWatched setup allowed levels stack occasion program checker).1.2)
      (runWatched setup allowed levels stack occasion program checker).2 := by
  induction levels generalizing stack occasion program checker with
  | zero => exact ⟨.refl checker, fun impossible => absurd impossible (Nat.not_lt_zero _)⟩
  | succ levels inductionHypothesis =>
    have visited := (settled_flow (inductionHypothesis (occasion :: stack))).runStatements
      occasion program checker
    have ends := runWatched_ends setup allowed levels stack occasion program checker
    generalize runWatched setup allowed (levels + 1) stack occasion program checker = outcome
      at ends ⊢
    cases ends with
    | passed => exact visited
    | refusedLeaving _ refused =>
      refine ⟨visited.restored, fun _ shallow => absurd (fine _ ?_) refused⟩
      exact visited.restored.callDepth ▸ shallow
    | refusedEntering refused =>
      exact ⟨.refl checker, fun _ shallow => absurd (fine _ shallow) refused⟩

theorem always_of_depth {request : Request} {checker : Checker}
    (fine : ∀ moment, moment.checker.callDepth ≤ request.setup.settings.depthLimit →
      allowed moment)
    (shallow : checker.callDepth ≤ request.setup.settings.depthLimit) :
    Always allowed request checker := by
  unfold Always checkWatched
  cases opened : checker.isOpen request.file with
  | true =>
    rw [checkWith_open _ _ _ _ opened]
    exact nofun
  | false =>
    rw [checkWith_closed _ _ _ _ opened]
    have settled := runWatched_settled fine (checker.headroom request.setup + 1) []
      (.file request.file) request.program (checker.enterFile request.file)
    have ends := settled.ends
      (Nat.lt_succ_of_le (headroom_enterFile_le request.setup checker request.file)) shallow
    dsimp only
    generalize (runWatched request.setup allowed (checker.headroom request.setup + 1) []
      (.file request.file) request.program (checker.enterFile request.file)).1.2 = answer at ends ⊢
    cases answer with
    | error stop => exact fun equal => ends (congrArg some (Except.error.inj equal))
    | ok types => exact nofun

end

/-- A run is like one with more levels and anything beyond them, unless it is exhausted. -/
theorem runWithin_cut (setup : Setup) (beyond : Runner) (levels more : Nat) (occasion : Occasion)
    (program : Program) (checker : Checker) :
    Cut (fun _ => True) (runWithin setup levels occasion program checker)
      ((runStatements setup)^[levels + more] beyond occasion program checker) := by
  induction levels generalizing occasion program checker with
  | zero => exact .inr ⟨rfl, trivial⟩
  | succ levels inductionHypothesis =>
    rw [Nat.succ_add, Function.iterate_succ_apply']
    exact (Cuts.ofRuns setup inductionHypothesis).runStatements occasion program checker trivial

/-- A check that ends is like one with anything beyond its bound. -/
theorem checkFile_beyond {request : Request} {checker : Checker} (beyond : Runner) {levels : Nat}
    (enough : checker.headroom request.setup < levels)
    (ends : (checkFile request.setup request.file request.program checker).1.2 ≠
      .error .exhausted) :
    checkWith ((runStatements request.setup)^[levels] beyond) request.file request.program
      checker = checkFile request.setup request.file request.program checker := by
  obtain ⟨more, rfl⟩ := Nat.exists_eq_add_of_le enough
  have cut : Cut (fun _ => True) (checkFile request.setup request.file request.program checker)
      (checkWith ((runStatements request.setup)^[checker.headroom request.setup + 1 + more] beyond)
        request.file request.program checker) :=
    checkWith_cut fun _ => runWithin_cut request.setup beyond _ more _ _ _
  exact (cut.resolve_right fun gaveUp => ends gaveUp.1).symm

/-- A run with a number of levels, and nothing beyond them. -/
theorem runWithin_eq_iterate (setup : Setup) (levels : Nat) :
    runWithin setup levels =
      (runStatements setup)^[levels] fun _ program => .settle program (throw .exhausted) := by
  induction levels with
  | zero => rfl
  | succ levels inductionHypothesis =>
    rw [Function.iterate_succ_apply', ← inductionHypothesis]
    rfl

/-- A check that ends is like one with more levels. -/
theorem checkFile_more {request : Request} {checker : Checker} {levels : Nat}
    (enough : checker.headroom request.setup < levels)
    (ends : (checkFile request.setup request.file request.program checker).1.2 ≠
      .error .exhausted) :
    checkWith (runWithin request.setup levels) request.file request.program checker =
      checkFile request.setup request.file request.program checker := by
  rw [runWithin_eq_iterate]
  exact checkFile_beyond _ enough ends

/-- No check that begins within the limit is given up for its bound. -/
theorem check_ends_of_depth {request : Request} {checker : Checker}
    (shallow : checker.callDepth ≤ request.setup.settings.depthLimit) :
    (checkFile request.setup request.file request.program checker).1.2 ≠ .error .exhausted := by
  have always : Always (fun _ => True) request checker :=
    always_of_depth (fun _ _ => trivial) shallow
  rwa [Always, checkWatched_true] at always

/-- After other checks there is enough headroom for calls. -/
theorem callDepth_after (past : List Request) (setup : Setup) :
    (Checker.after past).callDepth ≤ setup.settings.depthLimit := by
  rw [(after_restores past).callDepth]
  exact Nat.zero_le _

/-- No check of a sequence is given up for its bound. -/
theorem check_ends (past : List Request) (request : Request) :
    (checkFile request.setup request.file request.program (Checker.after past)).1.2 ≠
      .error .exhausted :=
  check_ends_of_depth (callDepth_after past request.setup)

/-- Every check of a sequence ends with an answer or a fault and the bound on its levels plays no
part in that, as the bound of a comparison plays none in its answer. Bodies are never nested beyond
the limit, and whatever is visited on the way leaves their depth as it was. -/
theorem check_terminates (past : List Request) (request : Request) :
    let checker := Checker.after past
    let outcome := checkFile request.setup request.file request.program checker
    (outcome.1.2 = .ok () ∨ ∃ error, outcome.1.2 = .error (.fault error)) ∧
      (∀ (beyond : Runner) (levels : Nat), checker.headroom request.setup < levels →
        checkWith ((runStatements request.setup)^[levels] beyond) request.file request.program
          checker = outcome) ∧
      (∀ (heap : Heap) (beyond : HandlePair → Comparison) (depth : Nat),
        heap.comparisonDepth ≤ depth → ∀ left right,
          (compareTypes (heap.follow^[depth] beyond) left right []).isSome =
            heap.same left right) ∧
      Always (fun moment => moment.checker.callDepth ≤ request.setup.settings.depthLimit)
        request checker ∧
      (∀ levels toplevel node before,
        (visitNode request.setup (runWithin request.setup levels) toplevel node
          before).2.callDepth = before.callDepth) := by
  refine ⟨?_, fun beyond levels enough => checkFile_beyond beyond enough (check_ends past request),
    ?_, ?_, ?_⟩
  · rcases answer : (checkFile request.setup request.file request.program
      (Checker.after past)).1.2 with (error | _) | _
    · exact .inr ⟨error, rfl⟩
    · exact absurd answer (check_ends past request)
    · exact .inl rfl
  · exact fun heap beyond depth enough => heap.same_beyond beyond enough
  · exact always_of_depth (fun _ within => within) (callDepth_after past request.setup)
  · intro levels toplevel node before
    have kept := restored_flow request.setup (runWithin_restores request.setup levels)
    exact (kept.sound.visitNode toplevel before node).flow.callDepth

end CallTyping
