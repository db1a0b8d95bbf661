/-
This file is about the shortcut by which a file that has definitions is not checked
again when it is required. The shortcut takes it for granted that such a file was
checked to its end. That is so as long as a file whose check fails leaves no
definitions behind, and no function of such a file is called later on. But the
definitions of a file are written one statement at a time and stay when a later
statement fails, so a file that fails is exposed by the next check that requires it.
-/

import CallTyping.Proofs.Requires
import CallTyping.Proofs.Restoration
import CallTyping.Proofs.Termination
import Mathlib.Data.List.Induction

namespace CallTyping

/-! ### Files that were checked to their end -/

/-- The typed program of a file is kept, or its own check is among those that passed. -/
def Checker.completed (checker : Checker) (passed : List String) (file : String) : Bool :=
  checker.modules.contains file || decide (file ∈ passed)

/-- The files whose own checks pass, of checks that follow each other from a state on. -/
def Checker.passing (checker : Checker) : List Request → List String
  | [] => []
  | request :: rest =>
    (if (checkFile request.setup request.file request.program checker).1.2.isOk then
      [request.file] else []) ++ (checker.checked request).passing rest

/-- The files whose own checks pass in a sequence of checks. -/
def passedFiles (requests : List Request) : List String := Checker.initial.passing requests

theorem passedFiles_append (past : List Request) (request : Request) :
    passedFiles (past ++ [request]) = passedFiles past ++
      if (checkFile request.setup request.file request.program (Checker.after past)).1.2.isOk then
        [request.file] else [] := by
  unfold passedFiles Checker.after
  generalize Checker.initial = checker
  induction past generalizing checker with
  | nil => exact List.append_nil _
  | cons first rest inductionHypothesis =>
    rw [List.cons_append, Checker.passing, inductionHypothesis, Checker.passing, List.append_assoc]
    rfl

/-- A file whose statements have stopped has no definitions then, and the body of a function runs
when its file is being checked; unless the file has been checked to its end before. -/
def Moment.tidy (passed : List String) (moment : Moment) : Bool :=
  match moment.phase, moment.stack with
  | .entering, .body _ _ :: _ =>
    moment.checker.isOpen moment.checker.file ||
      moment.checker.completed passed moment.checker.file
  | .leaving (some _), .file file :: _ =>
    !moment.checker.bindings.hasDefinitions file || moment.checker.completed passed file
  | _, _ => true

/-! ### Definitions -/

namespace Bindings

theorem definitions_define_other (bindings : Bindings) {file other : String} (name : String)
    (binding : Binding) (different : other ≠ file) :
    (bindings.define file name binding).definitions other = bindings.definitions other := by
  rw [definitions, define, OrderedMap.get?_insert_other _ _ _ _ different]
  rfl

theorem hasDefinitions_define_self (bindings : Bindings) (file name : String)
    (binding : Binding) : (bindings.define file name binding).hasDefinitions file = true := by
  have member : (name, binding) ∈
      ((bindings.define file name binding).definitions file).entries := by
    rw [definitions, define, OrderedMap.get?_insert_self, Option.getD_some,
      OrderedMap.mem_entries_iff, OrderedMap.get?_insert_self]
  rw [hasDefinitions, OrderedMap.isEmpty, Bool.not_eq_true', List.isEmpty_eq_false_iff]
  exact List.ne_nil_of_mem member

theorem hasDefinitions_define {bindings : Bindings} {file other name : String}
    {binding : Binding} :
    (bindings.define file name binding).hasDefinitions other = true ↔
      other = file ∨ bindings.hasDefinitions other = true := by
  by_cases same : other = file
  · subst same
    exact iff_of_true (hasDefinitions_define_self bindings other name binding) (.inl rfl)
  · rw [hasDefinitions, definitions_define_other bindings name binding same]
    exact (or_iff_right same).symm

end Bindings

/-! ### Requires of known files -/

/-- The definitions of a file are exposed as an object that is named at the top level. -/
theorem outcome_exposeFile (span : Span) (name file : String) (checker : Checker) :
    (exposeFile span name file).outcome checker =
      if (checker.definitions file).isEmpty then
        (.error (.fault ⟨checker.file, span, .noDefinitions file⟩), checker)
      else
        let made := checker.heap.newObject
          (.ofList ((checker.definitions file).entries.map fun (name, binding) =>
            (name, binding.ty)))
        (.ok made.1, { checker with
          heap := made.2
          bindings := checker.bindings.define checker.file name ⟨made.1, span⟩ }) := by
  rw [exposeFile, Check.outcome_bind, Check.outcome_get]
  dsimp only
  split <;> rfl

theorem outcome_exposeFile_none {file : String} {checker : Checker}
    (none : checker.bindings.hasDefinitions file = false) (span : Span) (name : String) :
    (exposeFile span name file).outcome checker =
      (.error (.fault ⟨checker.file, span, .noDefinitions file⟩), checker) := by
  rw [Bindings.hasDefinitions, Bool.not_eq_false'] at none
  have empty : (checker.definitions file).isEmpty = true := none
  rw [outcome_exposeFile, if_pos empty]

theorem outcome_exposeFile_some {file : String} {checker : Checker}
    (some : checker.bindings.hasDefinitions file = true) (span : Span) (name : String) :
    (exposeFile span name file).outcome checker =
      let made := checker.heap.newObject
        (.ofList ((checker.definitions file).entries.map fun (name, binding) =>
          (name, binding.ty)))
      (.ok made.1, { checker with
        heap := made.2
        bindings := checker.bindings.define checker.file name ⟨made.1, span⟩ }) := by
  rw [Bindings.hasDefinitions, Bool.not_eq_true'] at some
  have found : (checker.definitions file).isEmpty = false := some
  rw [outcome_exposeFile, found, if_neg Bool.false_ne_true]

/-- The ways of a require: its file is open, or it has definitions, or it is loaded first. -/
theorem outcome_typeOfRequire (setup : Setup) (run : Runner) (span : Span) (name : String)
    (checker : Checker) :
    let file := requiredFile checker.file name setup.settings.extension
    (typeOfRequire setup run span name).outcome checker =
      if checker.isOpen file then
        (.error (.fault ⟨checker.file, span, .circularRequire file⟩), checker)
      else if checker.bindings.hasDefinitions file then
        (exposeFile span name file).outcome
          { checker with log := checker.log.push (.moduleKnown file) }
      else
        match (loadFile setup run span file).outcome checker with
        | (.ok _, after) => (exposeFile span name file).outcome after
        | (.error stop, after) => (.error stop, after) := by
  intro file
  rw [typeOfRequire, Check.outcome_bind, Check.outcome_get]
  dsimp only
  split
  · rfl
  · split
    · rfl
    · rw [Check.outcome_bind]
      generalize (loadFile setup run span _).outcome checker = loaded
      obtain ⟨stop | _, after⟩ := loaded <;> rfl

/-- What is exposed leaves modules and events as they are. -/
theorem exposeFile_keeps (span : Span) (name file : String) (checker : Checker) :
    ((exposeFile span name file).outcome checker).2.modules = checker.modules ∧
      ((exposeFile span name file).outcome checker).2.log = checker.log := by
  rw [outcome_exposeFile]
  split <;> exact ⟨rfl, rfl⟩

/-- A require that comes to an end without a fault has loaded its file, or found it known. -/
theorem typeOfRequire_finds {setup : Setup} {run : Runner} {span : Span} {name : String}
    {checker after : Checker} {ty : Ty}
    (passes : (typeOfRequire setup run span name).outcome checker = (.ok ty, after)) :
    let file := requiredFile checker.file name setup.settings.extension
    after.modules.contains file = true ∨ .moduleKnown file ∈ after.log := by
  intro file
  rw [outcome_typeOfRequire] at passes
  split at passes
  · cases passes
  · split at passes
    · have kept := exposeFile_keeps span name file
        { checker with log := checker.log.push (.moduleKnown file) }
      rw [passes] at kept
      exact .inr (kept.2 ▸ Array.mem_push_self)
    · have ends := loadFile_ends setup run span file checker
      generalize (loadFile setup run span file).outcome checker = outcome at ends passes
      cases ends with
      | missing | failed => cases passes
      | checked program typed types ended _ ran =>
        have kept := exposeFile_keeps span name file
          { ended.leaveFile file checker.file checker.bindings.scopes with
            modules := ended.modules.insert file typed }
        dsimp only at passes kept
        rw [passes] at kept
        refine .inl ?_
        rw [kept.1, OrderedMap.contains, OrderedMap.get?_insert_self]
        rfl

/-- Files keep their definitions, and a file that is told to be known has some. -/
structure Tells (before after : Checker) : Prop where
  definitions (file : String) :
    before.bindings.hasDefinitions file = true → after.bindings.hasDefinitions file = true
  known (file : String) : .moduleKnown file ∈ after.log →
    .moduleKnown file ∈ before.log ∨ after.bindings.hasDefinitions file = true

namespace Tells

variable {setup : Setup} {run : Runner} {before middle after : Checker}

theorem refl (checker : Checker) : Tells checker checker := ⟨fun _ => id, fun _ => .inl⟩

theorem trans (left : Tells before middle) (right : Tells middle after) : Tells before after where
  definitions file defined := right.definitions file (left.definitions file defined)
  known file told := by
    rcases right.known file told with earlier | defined
    · exact (left.known file earlier).imp_right (right.definitions file)
    · exact .inr defined

/-- Where the top level is as before, only what is told matters. -/
theorem of_toplevel (toplevel : after.bindings.toplevel = before.bindings.toplevel)
    (known : ∀ file, .moduleKnown file ∈ after.log →
      .moduleKnown file ∈ before.log ∨ before.bindings.hasDefinitions file = true) :
    Tells before after := by
  have same (file : String) :
      after.bindings.hasDefinitions file = before.bindings.hasDefinitions file := by
    rw [Bindings.hasDefinitions, Bindings.definitions, toplevel]
    rfl
  exact ⟨fun file defined => (same file).trans defined, fun file told => by
    rw [same]
    exact known file told⟩

theorem record (checker : Checker) {event : Event}
    (fine : ∀ file, event = .moduleKnown file →
      checker.bindings.hasDefinitions file = true) :
    Tells checker { checker with log := checker.log.push event } :=
  of_toplevel rfl fun file told => by
    rcases Array.mem_push.mp told with earlier | rfl
    · exact .inl earlier
    · exact .inr (fine file rfl)

theorem of_aside (aside : Aside before after) : Tells before after := by
  obtain ⟨events, log, others⟩ := aside.log
  refine of_toplevel (congrArg Bindings.toplevel aside.bindings) fun file told => ?_
  rw [log] at told
  refine (Array.mem_append.mp told).imp_right fun new => ?_
  exact nomatch others _ new

theorem define (checker : Checker) (file name : String) (binding : Binding) :
    Tells checker { checker with bindings := checker.bindings.define file name binding } where
  definitions _ defined := Bindings.hasDefinitions_define.mpr (.inr defined)
  known _ := .inl

theorem exposeFile (span : Span) (name file : String) (checker : Checker) :
    Tells checker ((exposeFile span name file).outcome checker).2 := by
  rw [outcome_exposeFile]
  split
  · exact .refl checker
  · exact ⟨(define checker checker.file name _).definitions, fun _ => .inl⟩

theorem enterFile (checker : Checker) (file : String) : Tells checker (checker.enterFile file) :=
  of_toplevel rfl fun _ told => by
    rcases Array.mem_push.mp told with earlier | impossible
    · exact .inl earlier
    · cases impossible

theorem loadFile (runs : ∀ occasion program checker, Tells checker (run occasion program checker).2)
    (span : Span) (file : String) (checker : Checker) :
    Tells checker ((loadFile setup run span file).outcome checker).2 := by
  have ends := loadFile_ends setup run span file checker
  generalize (CallTyping.loadFile setup run span file).outcome checker = outcome at ends ⊢
  have asks : Tells checker { checker with loads := checker.loads.push file } :=
    .of_aside (.of_eq rfl rfl rfl rfl rfl)
  have begins : Tells checker (checker.beginFile file) := asks.trans (enterFile _ file)
  cases ends with
  | missing => exact asks
  | checked program typed types after _ ran | failed program typed stop after _ ran =>
    have inner := runs (.file file) program (checker.beginFile file)
    rw [ran] at inner
    exact (begins.trans inner).trans (of_toplevel rfl fun _ => .inl)

theorem typeOfRequire
    (runs : ∀ occasion program checker, Tells checker (run occasion program checker).2)
    (span : Span) (name : String) (checker : Checker) :
    Tells checker ((typeOfRequire setup run span name).outcome checker).2 := by
  rw [outcome_typeOfRequire]
  split
  · exact .refl checker
  · split
    next defined =>
      exact (record checker fun file told => by cases told; exact defined).trans
        (exposeFile span name _ _)
    next =>
      have loads : Tells checker ((CallTyping.loadFile setup run span _).outcome checker).2 :=
        loadFile runs span (requiredFile checker.file name setup.settings.extension) checker
      split
      next after loaded =>
        rw [loaded] at loads
        exact loads.trans (exposeFile span name _ after)
      next after failed =>
        rw [failed] at loads
        exact loads

theorem course
    (runs : ∀ occasion program checker, Tells checker (run occasion program checker).2) :
    Course (fun _ => True) Tells setup run where
  aside := of_aside
  trans := trans
  bind _ _ _ := of_toplevel rfl fun _ => .inl
  block _ _ _ _ _ := of_toplevel rfl fun _ => .inl
  scope inner := ⟨inner.definitions, inner.known⟩
  call {checker _ id args _} ends := by
    cases ends with
    | known => exact record checker nofun
    | running => exact .refl checker
    | tooDeep | unknown => exact .of_aside (.of_eq rfl rfl rfl rfl rfl)
    | typed closure body types after _ _ _ ran | failed closure body stop after _ _ _ ran =>
      have enters : Tells checker (checker.beginBody id closure args) :=
        have told : Tells checker { checker with
            log := checker.log.push (.specializing id (args.map checker.heap.text)) } :=
          record checker nofun
        told.trans (of_toplevel (Inward.enterBody_toplevel _ closure args) fun _ => .inl)
      have inner := runs (.body id args) closure.body (checker.beginBody id closure args)
      rw [ran] at inner
      exact (enters.trans inner).trans (of_toplevel rfl fun _ => .inl)
  require toplevel span slot name checker _ := by
    have visits : Tells checker
        { checker with log := checker.log.push (.visiting (Expr.require name).kindName span) } :=
      record checker nofun
    unfold visitNode
    cases slot with
    | some ty => exact visits
    | none =>
      unfold visitExpr
      exact visits.trans (typeOfRequire runs span name _)

end Tells

theorem runWithin_tells (setup : Setup) (levels : Nat) (occasion : Occasion) (program : Program)
    (checker : Checker) : Tells checker (runWithin setup levels occasion program checker).2 := by
  induction levels generalizing occasion program checker with
  | zero => exact .refl checker
  | succ levels inductionHypothesis =>
    exact (Tells.course inductionHypothesis).visitNodes
      (fun _ checker name binding => .define checker checker.file name binding) checker program
      fun _ _ => trivial

/-! ### Runs that leave nothing unfinished -/

variable {passed : List String}

/-- A file is being checked, or was checked to its end. -/
def Checker.Owns (checker : Checker) (passed : List String) (file : String) : Prop :=
  checker.isOpen file = true ∨ checker.completed passed file = true

/-- Every file with definitions is being checked, or was checked to its end. -/
def Checker.Sealed (checker : Checker) (passed : List String) : Prop :=
  ∀ file, checker.bindings.hasDefinitions file = true → checker.Owns passed file

theorem Checker.completed_iff {checker : Checker} {file : String} :
    checker.completed passed file = true ↔
      checker.modules.contains file = true ∨ file ∈ passed := by
  rw [Checker.completed, Bool.or_eq_true, decide_eq_true_iff]

theorem Moment.owns_of_tidy {stack : List Occasion} {id : ClosureId} {args : List Ty}
    {checker : Checker} (tidy : tidy passed ⟨.body id args :: stack, .entering, checker⟩ = true) :
    checker.Owns passed checker.file :=
  (Bool.or_eq_true _ _).mp tidy

theorem Moment.completed_of_tidy {stack : List Occasion} {file : String} {stop : Stop}
    {checker : Checker}
    (tidy : tidy passed ⟨.file file :: stack, .leaving (some stop), checker⟩ = true)
    (defined : checker.bindings.hasDefinitions file = true) :
    checker.completed passed file = true := by
  refine ((Bool.or_eq_true _ _).mp tidy).resolve_left fun none => ?_
  rw [defined] at none
  cases none

/-- A pass that is not given up leaves every file with definitions open or completed, if it found
them so and runs for such a file. -/
structure Seals (passed : List String) (before : Checker) (stop : Option Stop)
    (after : Checker) : Prop where
  restored : Restored before after
  modules (file : String) :
    before.modules.contains file = true → after.modules.contains file = true
  seals : stop ≠ some .exhausted → before.Owns passed before.file → before.Sealed passed →
    after.Sealed passed

theorem Checker.Owns.later {before after : Checker} {file : String}
    (owns : before.Owns passed file)
    (opened : before.isOpen file = true → after.isOpen file = true)
    (modules : before.modules.contains file = true → after.modules.contains file = true) :
    after.Owns passed file :=
  owns.imp opened fun completed =>
    completed_iff.mpr ((completed_iff.mp completed).imp_left modules)

theorem Checker.Sealed.later {before after : Checker} (sealed : before.Sealed passed)
    (toplevel : after.bindings.toplevel = before.bindings.toplevel)
    (opened : ∀ file, before.isOpen file = true → after.isOpen file = true)
    (modules : after.modules = before.modules) : after.Sealed passed := by
  intro file defined
  rw [Bindings.hasDefinitions, Bindings.definitions, toplevel] at defined
  exact (sealed file defined).later (opened file) fun known => modules ▸ known

namespace Seals

theorem of_same {before after : Checker} {stop : Option Stop} (restored : Restored before after)
    (toplevel : after.bindings.toplevel = before.bindings.toplevel)
    (modules : after.modules = before.modules) : Seals passed before stop after where
  restored := restored
  modules _ known := modules ▸ known
  seals _ _ sealed := sealed.later toplevel
    (fun _ opened => by rwa [Checker.isOpen, restored.openFiles]) modules

theorem trans {first second third : Checker} {stop : Option Stop}
    (left : Seals passed first none second) (right : Seals passed second stop third) :
    Seals passed first stop third where
  restored := left.restored.trans right.restored
  modules file known := right.modules file (left.modules file known)
  seals ended owns sealed := by
    refine right.seals ended ?_ (left.seals nofun owns sealed)
    rw [left.restored.file]
    exact owns.later (fun opened => by rwa [Checker.isOpen, left.restored.openFiles])
      (left.modules _)

/-- Definitions are made for the file that is current. -/
theorem define (checker : Checker) (name : String) (binding : Binding) (stop : Option Stop) :
    Seals passed checker stop
      { checker with bindings := checker.bindings.define checker.file name binding } where
  restored := ⟨rfl, rfl, rfl, rfl⟩
  modules _ := id
  seals _ owns sealed file defined := by
    rcases Bindings.hasDefinitions_define.mp defined with rfl | earlier
    · exact owns
    · exact sealed file earlier

end Seals

/-- All that is known about a watched run when it ends. -/
structure EndsSealed (passed : List String) (occasion : Occasion) (before : Checker)
    (ran : (Program × Except Stop (List Ty)) × Checker) : Prop where
  seals : Seals passed before (stopOf ran.1.2) ran.2
  entered (id : ClosureId) (args : List Ty) : occasion = .body id args →
    stopOf ran.1.2 ≠ some .exhausted → before.Owns passed before.file
  left (file : String) : occasion = .file file → ∀ stop, stopOf ran.1.2 = some stop →
    stop ≠ .exhausted → ran.2.bindings.hasDefinitions file = true →
      ran.2.completed passed file = true

section

variable {setup : Setup} {run : Runner}

theorem call_seals (runs : ∀ occasion program checker,
      EndsSealed passed occasion checker (run occasion program checker))
    {span : Span} {id : ClosureId} {args : List Ty} {checker : Checker}
    {outcome : Except Stop Ty × Checker}
    (ends : CallEnds setup run span id args checker outcome) :
    Seals passed checker (stopOf outcome.1) outcome.2 := by
  have restored := (restored_flow setup fun occasion program checker =>
    (runs occasion program checker).seals.restored).call ends
  cases ends with
  | known | running | tooDeep | unknown => exact .of_same restored rfl rfl
  | typed closure body types after _ _ _ ran | failed closure body stop after _ _ _ ran =>
    have inner := runs (.body id args) closure.body (checker.beginBody id closure args)
    rw [ran] at inner
    refine ⟨restored, inner.seals.modules, fun ended _ sealed => ?_⟩
    have begins : (checker.beginBody id closure args).Sealed passed :=
      sealed.later (Inward.enterBody_toplevel _ closure args) (fun _ opened => opened) rfl
    exact inner.seals.seals ended (inner.entered id args rfl ended) begins

theorem contains_insert (modules : OrderedMap String Program) (file other : String)
    (typed : Program) : (modules.insert file typed).contains other = true ↔
      other = file ∨ modules.contains other = true := by
  by_cases same : other = file
  · subst same
    rw [OrderedMap.contains, OrderedMap.get?_insert_self]
    exact iff_of_true rfl (.inl rfl)
  · rw [OrderedMap.contains, OrderedMap.get?_insert_other _ _ _ _ same]
    exact (or_iff_right same).symm

theorem isOpen_openFile (checker : Checker) (file : String) :
    (checker.openFile file).isOpen file = true := by
  unfold Checker.openFile
  split
  next opened => exact opened
  next => exact decide_eq_true List.mem_cons_self

theorem isOpen_openFile_other {checker : Checker} {other : String}
    (opened : checker.isOpen other = true) (file : String) :
    (checker.openFile file).isOpen other = true := by
  unfold Checker.openFile
  split
  next => exact opened
  next => exact decide_eq_true (List.mem_cons_of_mem _ (of_decide_eq_true opened))

/-- Where a file begins, it is open itself. -/
theorem enterFile_sealed {checker : Checker} (sealed : checker.Sealed passed) (file : String) :
    (checker.enterFile file).Sealed passed ∧
      (checker.enterFile file).Owns passed (checker.enterFile file).file :=
  ⟨sealed.later rfl (fun _ opened => isOpen_openFile_other opened file) rfl,
    .inl (isOpen_openFile checker file)⟩

/-- Where a file ends, the other ones stay open. -/
theorem leaveFile_sealed {after final : Checker} {file : String} (sealed : after.Sealed passed)
    {passed' : List String}
    (toplevel : final.bindings.toplevel = after.bindings.toplevel)
    (openFiles : final.openFiles = after.openFiles.filter (· ≠ file))
    (completed : ∀ other, after.completed passed other = true →
      final.completed passed' other = true)
    (own : after.bindings.hasDefinitions file = true → final.completed passed' file = true) :
    final.Sealed passed' := by
  intro other defined
  rw [Bindings.hasDefinitions, Bindings.definitions, toplevel] at defined
  by_cases same : other = file
  · subst same
    exact .inr (own defined)
  · refine (sealed other defined).imp (fun opened => ?_) (completed other)
    rw [Checker.isOpen, openFiles]
    exact decide_eq_true (List.mem_filter.mpr ⟨of_decide_eq_true opened, decide_eq_true same⟩)

theorem seals_flow (setup : Setup) (runs : ∀ occasion program checker,
      EndsSealed passed occasion checker (run occasion program checker)) :
    Flow (Seals passed) setup run where
  still checker := .of_same (.refl checker) rfl rfl
  trans := .trans
  fault checker _ _ _ := .of_same (.refl checker) rfl rfl
  record _ _ := .of_same ⟨rfl, rfl, rfl, rfl⟩ rfl rfl
  inlay _ _ _ := .of_same ⟨rfl, rfl, rfl, rfl⟩ rfl rfl
  bind _ _ _ _ := .of_same ⟨rfl, rfl, rfl, rfl⟩ rfl rfl
  define checker name ty span := .define checker name ⟨ty, span⟩ none
  block _ _ _ _ := .of_same ⟨rfl, rfl, rfl, rfl⟩ rfl rfl
  join _ _ _ _ _ _ := .of_same ⟨rfl, rfl, rfl, rfl⟩ rfl rfl
  object _ _ := .of_same ⟨rfl, rfl, rfl, rfl⟩ rfl rfl
  variant _ _ := .of_same ⟨rfl, rfl, rfl, rfl⟩ rfl rfl
  addField _ _ _ _ _ := .of_same ⟨rfl, rfl, rfl, rfl⟩ rfl rfl
  scope {checker after stop} inner := by
    refine ⟨?_, inner.modules, inner.seals⟩
    have scopes := inner.restored.scopes
    exact ⟨by
      show after.bindings.scopes.pop = checker.bindings.scopes
      rw [scopes]
      rfl, inner.restored.file, inner.restored.callDepth, inner.restored.openFiles⟩
  call := call_seals runs
  load {checker _ file outcome} closed unknown ends := by
    have restored := (restored_flow setup fun occasion program checker =>
      (runs occasion program checker).seals.restored).load closed unknown ends
    cases ends with
    | missing => exact .of_same restored rfl rfl
    | checked program typed types after _ ran =>
      have inner := runs (.file file) program (checker.beginFile file)
      rw [ran] at inner
      refine ⟨restored, fun other known => (contains_insert after.modules file other typed).mpr
        (.inr (inner.seals.modules other known)), fun ended _ sealed => ?_⟩
      obtain ⟨begins, owns⟩ := enterFile_sealed sealed file
      have reached : after.Sealed passed := inner.seals.seals ended owns begins
      refine leaveFile_sealed reached rfl rfl (fun other completed => ?_) fun _ => ?_
      · exact Checker.completed_iff.mpr ((Checker.completed_iff.mp completed).imp_left fun known =>
          (contains_insert after.modules file other typed).mpr (.inr known))
      · exact Checker.completed_iff.mpr
          (.inl ((contains_insert after.modules file file typed).mpr (.inl rfl)))
    | failed program typed stop after _ ran =>
      have inner := runs (.file file) program (checker.beginFile file)
      rw [ran] at inner
      refine ⟨restored, inner.seals.modules, fun ended _ sealed => ?_⟩
      obtain ⟨begins, owns⟩ := enterFile_sealed sealed file
      have reached : after.Sealed passed := inner.seals.seals ended owns begins
      exact leaveFile_sealed reached rfl rfl (fun _ => id)
        (inner.left file rfl stop rfl fun gaveUp => ended (congrArg some gaveUp))

end

/-- Nothing is asked of a run that is given up. -/
theorem EndsSealed.exhausted {occasion : Occasion} {before after : Checker} {program : Program}
    (restored : Restored before after) (modules : ∀ file,
      before.modules.contains file = true → after.modules.contains file = true) :
    EndsSealed passed occasion before ((program, .error .exhausted), after) where
  seals := ⟨restored, modules, fun ended => absurd rfl ended⟩
  entered _ _ _ ended := absurd rfl ended
  left _ _ stop stops finished := by
    cases stops
    exact absurd rfl finished

theorem runWatched_sealed (passed : List String) (setup : Setup) (levels : Nat)
    (stack : List Occasion) (occasion : Occasion) (program : Program) (checker : Checker) :
    EndsSealed passed occasion checker
      (runWatched setup (·.tidy passed = true) levels stack occasion program checker) := by
  induction levels generalizing stack occasion program checker with
  | zero => exact .exhausted (.refl checker) fun _ => id
  | succ levels inductionHypothesis =>
    have visited := (seals_flow setup (inductionHypothesis (occasion :: stack))).runStatements
      occasion program checker
    have ends := runWatched_ends setup (·.tidy passed = true) levels stack occasion program checker
    generalize runWatched setup (·.tidy passed = true) (levels + 1) stack occasion program checker =
      outcome at ends ⊢
    cases ends with
    | refusedEntering => exact .exhausted (.refl checker) fun _ => id
    | refusedLeaving => exact .exhausted visited.restored visited.modules
    | passed enters leaves =>
      refine ⟨visited, fun id args body _ => ?_, fun file top stop stops _ defined => ?_⟩
      · subst body
        exact Moment.owns_of_tidy enters
      · subst top
        rw [stops] at leaves
        exact Moment.completed_of_tidy leaves defined

/-! ### Sequences of checks -/

/-- A tidy check leaves every file with definitions completed, if it found them so. -/
theorem checked_sealed {past : List Request} {request : Request}
    (tidy : Always (·.tidy (passedFiles past) = true) request (Checker.after past))
    (sealed : (Checker.after past).Sealed (passedFiles past)) :
    (Checker.after (past ++ [request])).Sealed (passedFiles (past ++ [request])) := by
  have finished := check_ends past request
  rw [after_append, passedFiles_append, Checker.checked]
  rw [← checkWatched_eq _ tidy] at finished ⊢
  rw [checkWatched, checkWith_closed _ _ _ _ (after_closed past request.file)] at finished ⊢
  obtain ⟨begins, owns⟩ := enterFile_sealed sealed request.file
  have ends := runWatched_sealed (passedFiles past) request.setup
    ((Checker.after past).headroom request.setup + 1) [] (.file request.file) request.program
    ((Checker.after past).enterFile request.file)
  dsimp only at finished ⊢
  generalize runWatched request.setup (·.tidy (passedFiles past) = true)
    ((Checker.after past).headroom request.setup + 1) [] (.file request.file) request.program
    ((Checker.after past).enterFile request.file) = ran at ends finished ⊢
  obtain ⟨⟨typed, stop | types⟩, after⟩ := ran
  · have other : stop ≠ .exhausted := fun gaveUp => finished (congrArg Except.error gaveUp)
    have reached := ends.seals.seals (fun gaveUp => other (Option.some.inj gaveUp)) owns begins
    refine leaveFile_sealed reached rfl rfl (fun file completed => ?_) fun defined => ?_
    · exact Checker.completed_iff.mpr ((Checker.completed_iff.mp completed).imp_right
        (List.mem_append_left _))
    · have completed := ends.left request.file rfl stop rfl other defined
      exact Checker.completed_iff.mpr ((Checker.completed_iff.mp completed).imp_right
        (List.mem_append_left _))
  · have reached := ends.seals.seals (by rintro ⟨⟩) owns begins
    refine leaveFile_sealed reached rfl rfl (fun file completed => ?_) fun defined => ?_
    · exact Checker.completed_iff.mpr ((Checker.completed_iff.mp completed).imp_right
        (List.mem_append_left _))
    · exact Checker.completed_iff.mpr
        (.inr (List.mem_append_right _ (List.mem_singleton.mpr rfl)))

/-- Every check of a sequence is tidy, given the files whose own checks passed before it. -/
def Tidy (requests : List Request) : Prop :=
  ∀ past request, past ++ [request] <+: requests →
    Always (·.tidy (passedFiles past) = true) request (Checker.after past)

theorem tidy_append {past : List Request} {request : Request} (tidy : Tidy past)
    (next : Always (·.tidy (passedFiles past) = true) request (Checker.after past)) :
    Tidy (past ++ [request]) := by
  intro older other prior
  rcases List.prefix_concat_iff.mp prior with whole | earlier
  · obtain ⟨rfl, last⟩ := List.append_inj' whole rfl
    cases last
    exact next
  · exact tidy older other earlier

theorem after_sealed {requests : List Request} (tidy : Tidy requests) :
    (Checker.after requests).Sealed (passedFiles requests) := by
  induction requests using List.reverseRecOn with
  | nil => exact fun _ defined => nomatch defined
  | append_singleton past request inductionHypothesis =>
    have earlier : Tidy past := fun older other prior =>
      tidy older other (prior.trans (List.prefix_append _ _))
    exact checked_sealed (tidy past request List.prefix_rfl) (inductionHypothesis earlier)

/-- Files that are told to be known have definitions. -/
theorem after_tells (requests : List Request) (file : String)
    (told : .moduleKnown file ∈ (Checker.after requests).log) :
    (Checker.after requests).bindings.hasDefinitions file = true := by
  induction requests using List.reverseRecOn with
  | nil => exact nomatch told
  | append_singleton past request inductionHypothesis =>
    have tells : Tells (Checker.after past) ((Checker.after past).checked request) := by
      rw [Checker.checked, checkFile_of_closed _ _ _ (after_closed past request.file)]
      exact ((Tells.enterFile _ request.file).trans (runWithin_tells request.setup
        ((Checker.after past).headroom request.setup + 1) (.file request.file) request.program
        _)).trans (.of_toplevel rfl fun _ => .inl)
    rw [after_append] at told ⊢
    exact (tells.known file told).elim
      (fun earlier => tells.definitions file (inductionHypothesis earlier)) id

/-! ### Files that are exposed -/

/-- A require that comes to an end has loaded its file and kept its typed program, or has told that
the file is known. In a sequence of tidy checks each file that has definitions after a check, and so
each that was told to be known, has been checked to its end by then. -/
theorem exposed_files_completed {requests : List Request} (tidy : Tidy requests) :
    (∀ setup levels span name checker ty after,
      (typeOfRequire setup (runWithin setup levels) span name).outcome checker = (.ok ty, after) →
        let file := requiredFile checker.file name setup.settings.extension
        after.modules.contains file = true ∨ .moduleKnown file ∈ after.log) ∧
      ∀ past, past <+: requests → ∀ file,
        (Checker.after past).bindings.hasDefinitions file = true ∨
            .moduleKnown file ∈ (Checker.after past).log →
          (Checker.after past).completed (passedFiles past) file = true := by
  refine ⟨fun _ _ _ _ _ _ _ => typeOfRequire_finds, fun past prior file exposed => ?_⟩
  have defined := exposed.elim id (after_tells past file)
  have tidyPast : Tidy past := fun older request earlier =>
    tidy older request (earlier.trans prior)
  exact (after_sealed tidyPast file defined).resolve_left fun opened =>
    absurd opened (Bool.eq_false_iff.mp (after_closed past file))

/-- Files to require: one that passes, one that fails at once, and one that fails after a
definition. -/
def requirable : Setup :=
  ⟨.standard, .standard, Sources.loader (.ofList
    [("whole.brie", [define]), ("bad.brie", [unknown]), ("part.brie", [define, unknown])])⟩
where
  define : Node := .untyped .origin (.define "x" (.untyped .origin (.literal (.integer 1))))
  unknown : Node := .untyped .origin (.ident "nope")

/-- The check of a program that requires one file. -/
def requiring (name : String) : Request :=
  ⟨requirable, "main.brie", [.untyped .origin (.require name)]⟩

/-- Whether the check of a request passes after other checks. -/
def passesAfter (past : List Request) (request : Request) : Bool :=
  (checkFile request.setup request.file request.program (Checker.after past)).1.2.isOk

/-- A file that fails leaves nothing, and one that passes is found to be known. -/
theorem tidy_checks_completed :
    let requests := [requiring "bad", requiring "whole", requiring "whole"]
    Tidy requests ∧ passesAfter [] (requiring "bad") = false ∧
      .moduleKnown "whole.brie" ∈ (Checker.after requests).log ∧
      (Checker.after requests).completed (passedFiles requests) "whole.brie" = true := by
  intro requests
  have none : Tidy [] := fun past request prior =>
    absurd (List.prefix_nil.mp prior) (List.append_ne_nil_of_right_ne_nil past (by simp))
  have first := tidy_append none
    (show Always (·.tidy (passedFiles []) = true) (requiring "bad") (Checker.after []) by
      decide +kernel)
  have second := tidy_append first
    (show Always (·.tidy (passedFiles [requiring "bad"]) = true) (requiring "whole")
      (Checker.after [requiring "bad"]) by decide +kernel)
  have tidy : Tidy requests := tidy_append second
    (show Always (·.tidy (passedFiles [requiring "bad", requiring "whole"]) = true)
      (requiring "whole") (Checker.after [requiring "bad", requiring "whole"]) by decide +kernel)
  have told : .moduleKnown "whole.brie" ∈ (Checker.after requests).log := by decide +kernel
  exact ⟨tidy, by decide +kernel, told,
    (exposed_files_completed tidy).2 requests List.prefix_rfl "whole.brie" (.inr told)⟩

/-- A file that fails after a definition is known to the next check, which exposes it although no
check of it came to its end. -/
theorem failed_file_exposed :
    let requests := [requiring "part", requiring "part"]
    passesAfter [] (requiring "part") = false ∧
      passesAfter [requiring "part"] (requiring "part") = true ∧
      .moduleKnown "part.brie" ∈ (Checker.after requests).log ∧
      (Checker.after requests).completed (passedFiles requests) "part.brie" = false :=
  ⟨by decide +kernel, by decide +kernel, by decide +kernel, by decide +kernel⟩

end CallTyping
