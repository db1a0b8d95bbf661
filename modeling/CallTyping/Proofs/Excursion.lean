/-
This file lists what a call of a closure and the load of a file can come to. Each
way is given with all that had to hold for it, the run of the statements included,
so nothing else has to be known about calls and loads.
-/

import CallTyping.Proofs.Outcome

namespace CallTyping

/-! ### Calls -/

namespace Cache

/-- The cache after a marker has been set. -/
def mark (cache : Cache) (closure : ClosureId) (args : List Ty) : Cache :=
  ⟨cache.entries.insert closure (cache.of closure ++ [⟨args, .running⟩])⟩

/-- The entry by which a call is recalled. -/
def recalled? (cache : Cache) (heap : Heap) (closure : ClosureId) (args : List Ty) :
    Option Specialization :=
  (cache.of closure).find? fun entry => heap.sameArguments entry.args args

theorem start_of_none {cache : Cache} {heap : Heap} {closure : ClosureId} {args : List Ty}
    (new : cache.recalled? heap closure args = none) :
    cache.start heap closure args = (.started, cache.mark closure args) := by
  unfold recalled? at new
  rw [start, new]
  rfl

theorem start_of_done {cache : Cache} {heap : Heap} {closure : ClosureId} {args known : List Ty}
    {result : Ty} {body : Program}
    (found : cache.recalled? heap closure args = some ⟨known, .done result body⟩) :
    cache.start heap closure args = (.known result, cache) := by
  unfold recalled? at found
  rw [start, found]

theorem start_of_running {cache : Cache} {heap : Heap} {closure : ClosureId}
    {args known : List Ty}
    (found : cache.recalled? heap closure args = some ⟨known, .running⟩) :
    cache.start heap closure args = (.running, cache) := by
  unfold recalled? at found
  rw [start, found]

end Cache

namespace Checker

/-- The state after the marker of a call has been set. -/
def markCall (checker : Checker) (closure : ClosureId) (args : List Ty) : Checker :=
  { checker with cache := checker.cache.mark closure args }

/-- The state in which the statements of a body begin to run. -/
def beginBody (checker : Checker) (id : ClosureId) (closure : Closure) (args : List Ty) :
    Checker :=
  Checker.enterBody
    { checker.markCall id args with
      log := checker.log.push (.specializing id (args.map checker.heap.text)) }
    closure args

/-- What a call comes to when the statements of its body have run. -/
def endBody (caller : Checker) (id : ClosureId) (args : List Ty) :
    (Program × Except Stop (List Ty)) × Checker → Except Stop Ty × Checker
  | ((body, .ok types), after) =>
    (.ok (Ty.ofBody types),
      (after.leaveBody caller.file caller.bindings.scopes).finishCall id args (Ty.ofBody types)
        body)
  | ((_, .error stop), after) =>
    (.error stop, (after.leaveBody caller.file caller.bindings.scopes).abandonCall id args)

/-- The state in which the statements of a required file begin to run. -/
def beginFile (checker : Checker) (file : String) : Checker :=
  Checker.enterFile { checker with loads := checker.loads.push file } file

/-- What a load comes to when the statements of the file have run. -/
def endFile (previous : Checker) (file : String) :
    (Program × Except Stop (List Ty)) × Checker → Except Stop Unit × Checker
  | ((typed, .ok _), after) =>
    (.ok (), { after.leaveFile file previous.file previous.bindings.scopes with
      modules := after.modules.insert file typed })
  | ((_, .error stop), after) =>
    (.error stop, after.leaveFile file previous.file previous.bindings.scopes)

end Checker

/-- What a call of a closure with all its arguments can come to. -/
inductive CallEnds (setup : Setup) (run : Runner) (span : Span) (id : ClosureId)
    (args : List Ty) (checker : Checker) : Except Stop Ty × Checker → Prop where
  | known (stored : List Ty) (result : Ty) (body : Program)
      (found : checker.cache.recalled? checker.heap id args = some ⟨stored, .done result body⟩) :
      CallEnds setup run span id args checker
        (.ok result, { checker with log := checker.log.push (.callKnown id) })
  | running (stored : List Ty)
      (found : checker.cache.recalled? checker.heap id args = some ⟨stored, .running⟩) :
      CallEnds setup run span id args checker
        (.error (.fault ⟨checker.file, span, .recursiveSpecialization id args⟩), checker)
  | tooDeep (new : checker.cache.recalled? checker.heap id args = none)
      (deep : setup.settings.depthLimit ≤ checker.callDepth) :
      CallEnds setup run span id args checker
        (.error (.fault ⟨checker.file, span, .specializationTooDeep setup.settings.depthLimit⟩),
          (checker.markCall id args).abandonCall id args)
  | unknown (new : checker.cache.recalled? checker.heap id args = none)
      (missing : checker.closures.get? id = none) :
      CallEnds setup run span id args checker
        (.error (.fault ⟨checker.file, span, .unknownClosure id⟩),
          (checker.markCall id args).abandonCall id args)
  | typed (closure : Closure) (body : Program) (types : List Ty) (after : Checker)
      (new : checker.cache.recalled? checker.heap id args = none)
      (shallow : checker.callDepth < setup.settings.depthLimit)
      (present : checker.closures.get? id = some closure)
      (ran : run (.body id args) closure.body (checker.beginBody id closure args) =
        ((body, .ok types), after)) :
      CallEnds setup run span id args checker
        (.ok (Ty.ofBody types),
          (after.leaveBody checker.file checker.bindings.scopes).finishCall id args
            (Ty.ofBody types) body)
  | failed (closure : Closure) (body : Program) (stop : Stop) (after : Checker)
      (new : checker.cache.recalled? checker.heap id args = none)
      (shallow : checker.callDepth < setup.settings.depthLimit)
      (present : checker.closures.get? id = some closure)
      (ran : run (.body id args) closure.body (checker.beginBody id closure args) =
        ((body, .error stop), after)) :
      CallEnds setup run span id args checker
        (.error stop,
          (after.leaveBody checker.file checker.bindings.scopes).abandonCall id args)

section

variable {setup : Setup} {run : Runner} {span : Span} {id : ClosureId} {args stored : List Ty}
  {checker : Checker}

theorem outcome_specialize (run : Runner) (closure : Closure) :
    (specialize run id closure args).outcome (checker.markCall id args) =
      checker.endBody id args
        (run (.body id args) closure.body (checker.beginBody id closure args)) := by
  have ranBody : (runBody run id closure args).asStep.outcome
      { checker.markCall id args with
        log := checker.log.push (.specializing id (args.map checker.heap.text)) } =
      (.ok (run (.body id args) closure.body (checker.beginBody id closure args)).1,
        (run (.body id args) closure.body (checker.beginBody id closure args)).2.leaveBody
          checker.file checker.bindings.scopes) := rfl
  unfold specialize
  rw [Check.outcome_bind, Check.outcome_get]
  dsimp only
  rw [Check.outcome_bind, Check.outcome_record]
  dsimp only
  refine (Check.outcome_bind_ok ranBody).trans ?_
  rcases run (.body id args) closure.body (checker.beginBody id closure args) with
    ⟨⟨body, stop | types⟩, after⟩ <;> rfl

theorem outcome_runClosure_known {result : Ty} {body : Program}
    (found : checker.cache.recalled? checker.heap id args = some ⟨stored, .done result body⟩) :
    (runClosure setup run span id args).outcome checker =
      (.ok result, { checker with log := checker.log.push (.callKnown id) }) := by
  unfold runClosure
  rw [Check.outcome_bind, Check.outcome_get]
  dsimp only
  rw [Cache.start_of_done found]
  rfl

theorem outcome_runClosure_running
    (found : checker.cache.recalled? checker.heap id args = some ⟨stored, .running⟩) :
    (runClosure setup run span id args).outcome checker =
      (.error (.fault ⟨checker.file, span, .recursiveSpecialization id args⟩), checker) := by
  unfold runClosure
  rw [Check.outcome_bind, Check.outcome_get]
  dsimp only
  rw [Cache.start_of_running found]
  rfl

theorem outcome_runClosure_new
    (new : checker.cache.recalled? checker.heap id args = none) :
    (runClosure setup run span id args).outcome checker =
      if setup.settings.depthLimit ≤ checker.callDepth then
        (.error (.fault ⟨checker.file, span, .specializationTooDeep setup.settings.depthLimit⟩),
          (checker.markCall id args).abandonCall id args)
      else
        match checker.closures.get? id with
        | some closure =>
          checker.endBody id args
            (run (.body id args) closure.body (checker.beginBody id closure args))
        | none =>
          (.error (.fault ⟨checker.file, span, .unknownClosure id⟩),
            (checker.markCall id args).abandonCall id args) := by
  unfold runClosure
  rw [Check.outcome_bind, Check.outcome_get]
  dsimp only
  rw [Cache.start_of_none new]
  dsimp only
  rw [Check.outcome_bind, Check.outcome_set]
  dsimp only
  split
  · rfl
  · cases checker.closures.get? id with
    | none => rfl
    | some closure => exact outcome_specialize run closure

/-- A call whose body is run comes to what the run of the body comes to. -/
theorem runClosure_ran {closure : Closure}
    (new : checker.cache.recalled? checker.heap id args = none)
    (shallow : checker.callDepth < setup.settings.depthLimit)
    (present : checker.closures.get? id = some closure) :
    (runClosure setup run span id args).outcome checker =
      checker.endBody id args
        (run (.body id args) closure.body (checker.beginBody id closure args)) := by
  rw [outcome_runClosure_new new, if_neg (Nat.not_le_of_lt shallow), present]

end

theorem runClosure_ends (setup : Setup) (run : Runner) (span : Span) (id : ClosureId)
    (args : List Ty) (checker : Checker) :
    CallEnds setup run span id args checker
      ((runClosure setup run span id args).outcome checker) := by
  rcases found : checker.cache.recalled? checker.heap id args with _ | ⟨stored, _ | ⟨result, body⟩⟩
  · by_cases deep : setup.settings.depthLimit ≤ checker.callDepth
    · rw [outcome_runClosure_new found, if_pos deep]
      exact .tooDeep found deep
    have shallow := Nat.lt_of_not_le deep
    cases present : checker.closures.get? id with
    | none =>
      rw [outcome_runClosure_new found, if_neg deep, present]
      exact .unknown found present
    | some closure =>
      rw [runClosure_ran found shallow present]
      rcases ran : run (.body id args) closure.body (checker.beginBody id closure args) with
        ⟨⟨body, stop | types⟩, after⟩
      · exact .failed closure body stop after found shallow present ran
      · exact .typed closure body types after found shallow present ran
  · rw [outcome_runClosure_running found]
    exact .running stored found
  · rw [outcome_runClosure_known found]
    exact .known stored result body found

/-- Calls come to the same when the run of the body does. -/
theorem runClosure_agrees (setup : Setup) {first second : Runner} (span : Span) {id : ClosureId}
    {args : List Ty} {checker : Checker}
    (agree : checker.cache.recalled? checker.heap id args = none →
      checker.callDepth < setup.settings.depthLimit →
      ∀ closure, checker.closures.get? id = some closure →
        first (.body id args) closure.body (checker.beginBody id closure args) =
          second (.body id args) closure.body (checker.beginBody id closure args)) :
    (runClosure setup first span id args).outcome checker =
      (runClosure setup second span id args).outcome checker := by
  rcases found : checker.cache.recalled? checker.heap id args with _ | ⟨stored, _ | ⟨result, body⟩⟩
  · rw [outcome_runClosure_new found, outcome_runClosure_new found]
    split
    · rfl
    next shallow =>
      cases present : checker.closures.get? id with
      | none => rfl
      | some closure =>
        dsimp only
        rw [agree found (Nat.lt_of_not_le shallow) closure present]
  · rw [outcome_runClosure_running found, outcome_runClosure_running found]
  · rw [outcome_runClosure_known found, outcome_runClosure_known found]

/-- A call stops for the reason for which the run of the body does. -/
theorem runClosure_stops {setup : Setup} {run : Runner} (span : Span) {id : ClosureId}
    {args : List Ty} {checker : Checker} {closure : Closure} {stop : Stop}
    (new : checker.cache.recalled? checker.heap id args = none)
    (shallow : checker.callDepth < setup.settings.depthLimit)
    (present : checker.closures.get? id = some closure)
    (stops : (run (.body id args) closure.body (checker.beginBody id closure args)).1.2 =
      .error stop) :
    ((runClosure setup run span id args).outcome checker).1 = .error stop := by
  rw [runClosure_ran new shallow present]
  rcases ran : run (.body id args) closure.body (checker.beginBody id closure args) with
    ⟨⟨body, answer⟩, after⟩
  rw [ran] at stops
  subst stops
  rfl

/-! ### Loads -/

/-- What the load of a file can come to. -/
inductive LoadEnds (setup : Setup) (run : Runner) (span : Span) (file : String)
    (checker : Checker) : Except Stop Unit × Checker → Prop where
  | missing (message : String) (refused : setup.loader.load file = .error message) :
      LoadEnds setup run span file checker
        (.error (.fault ⟨checker.file, span, .moduleLoad file message⟩),
          { checker with loads := checker.loads.push file })
  | checked (program typed : Program) (types : List Ty) (after : Checker)
      (loaded : setup.loader.load file = .ok program)
      (ran : run (.file file) program (checker.beginFile file) = ((typed, .ok types), after)) :
      LoadEnds setup run span file checker
        (.ok (), { after.leaveFile file checker.file checker.bindings.scopes with
          modules := after.modules.insert file typed })
  | failed (program typed : Program) (stop : Stop) (after : Checker)
      (loaded : setup.loader.load file = .ok program)
      (ran : run (.file file) program (checker.beginFile file) = ((typed, .error stop), after)) :
      LoadEnds setup run span file checker
        (.error stop, after.leaveFile file checker.file checker.bindings.scopes)

theorem outcome_loadFile (setup : Setup) (run : Runner) (span : Span) (file : String)
    (checker : Checker) :
    (loadFile setup run span file).outcome checker =
      match setup.loader.load file with
      | .error message =>
        (.error (.fault ⟨checker.file, span, .moduleLoad file message⟩),
          { checker with loads := checker.loads.push file })
      | .ok program =>
        checker.endFile file (run (.file file) program (checker.beginFile file)) := by
  unfold loadFile
  rw [Check.outcome_bind, Check.outcome_modify]
  dsimp only
  cases setup.loader.load file with
  | error message => rfl
  | ok program =>
    dsimp only
    rw [Check.outcome_bind, Check.outcome_asStep, runFile, Visit.between]
    show _ = checker.endFile file (run (.file file) program (checker.beginFile file))
    unfold Checker.beginFile
    rcases run (.file file) program
      (Checker.enterFile { checker with loads := checker.loads.push file } file) with
      ⟨⟨typed, stop | types⟩, after⟩ <;> rfl

/-- A load whose file is run comes to what the run of the file comes to. -/
theorem loadFile_ran {setup : Setup} {run : Runner} {span : Span} {file : String}
    {checker : Checker} {program : Program} (loaded : setup.loader.load file = .ok program) :
    (loadFile setup run span file).outcome checker =
      checker.endFile file (run (.file file) program (checker.beginFile file)) := by
  rw [outcome_loadFile, loaded]

theorem loadFile_ends (setup : Setup) (run : Runner) (span : Span) (file : String)
    (checker : Checker) :
    LoadEnds setup run span file checker ((loadFile setup run span file).outcome checker) := by
  cases answer : setup.loader.load file with
  | error message =>
    rw [outcome_loadFile, answer]
    exact .missing message answer
  | ok program =>
    rw [loadFile_ran answer]
    rcases ran : run (.file file) program (checker.beginFile file) with
      ⟨⟨typed, stop | types⟩, after⟩
    · exact .failed program typed stop after answer ran
    · exact .checked program typed types after answer ran

/-- Loads come to the same when the run of the file does. -/
theorem loadFile_agrees (setup : Setup) {first second : Runner} (span : Span) {file : String}
    {checker : Checker}
    (agree : ∀ program, setup.loader.load file = .ok program →
      first (.file file) program (checker.beginFile file) =
        second (.file file) program (checker.beginFile file)) :
    (loadFile setup first span file).outcome checker =
      (loadFile setup second span file).outcome checker := by
  rw [outcome_loadFile, outcome_loadFile]
  cases answer : setup.loader.load file with
  | error message => rfl
  | ok program =>
    dsimp only
    rw [agree program answer]

/-- A load stops for the reason for which the run of the file does. -/
theorem loadFile_stops {setup : Setup} {run : Runner} (span : Span) {file : String}
    {checker : Checker} {program : Program} {stop : Stop}
    (loaded : setup.loader.load file = .ok program)
    (stops : (run (.file file) program (checker.beginFile file)).1.2 = .error stop) :
    ((loadFile setup run span file).outcome checker).1 = .error stop := by
  rw [loadFile_ran loaded]
  rcases ran : run (.file file) program (checker.beginFile file) with ⟨⟨typed, answer⟩, after⟩
  rw [ran] at stops
  subst stops
  rfl

/-! ### Checks -/

/-- What the check of a file that is not open comes to. -/
theorem checkWith_closed (run : Runner) (file : String) (program : Program) (checker : Checker)
    (closed : checker.isOpen file = false) :
    checkWith run file program checker =
      let ran := run (.file file) program (checker.enterFile file)
      ((ran.1.1, ran.1.2.map fun _ => ()),
        ran.2.leaveFile file checker.file checker.bindings.scopes) := by
  rw [checkWith, closed, if_neg Bool.false_ne_true, Visit.andThen, runFile, Visit.between]
  rcases run (.file file) program (checker.enterFile file) with ⟨⟨typed, stop | types⟩, after⟩ <;>
    rfl

theorem checkWith_open (run : Runner) (file : String) (program : Program) (checker : Checker)
    (opened : checker.isOpen file = true) :
    checkWith run file program checker =
      ((program, .error (.fault ⟨checker.file, .origin, .circularRequire file⟩)), checker) := by
  rw [checkWith, opened, if_pos rfl]
  rfl

end CallTyping
