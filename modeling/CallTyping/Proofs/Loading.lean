/-
This file proves that a check asks the loader at most once for each file, and never
for one that is being checked or has definitions. A file that is asked for is open
while its statements run. When they have passed it has definitions, or the check
stops, since a file without definitions cannot be exposed. Neither definitions nor
open files are lost on the way, so no file is asked for that was asked for before.
-/

import CallTyping.Proofs.Completion
import CallTyping.Proofs.Tandem

namespace CallTyping

/-! ### Files that are not asked for -/

/-- Whether a file is being checked or has definitions, so that a require does not load it. -/
def Checker.settled (checker : Checker) (file : String) : Bool :=
  checker.isOpen file || checker.bindings.hasDefinitions file

/-- Since a state the loader was asked for different files, none of which was being checked or had
definitions in that state. -/
def LoadsOnce (start checker : Checker) : Prop :=
  ∃ asked : List String, checker.loads.toList = start.loads.toList ++ asked ∧ asked.Nodup ∧
    ∀ file ∈ asked, start.settled file = false

/-- On the way of a check: the files that were asked for are settled by now, and so are all that
were settled before. -/
structure Loading (start checker : Checker) : Prop where
  asked : ∃ asked : List String, checker.loads.toList = start.loads.toList ++ asked ∧
    asked.Nodup ∧ ∀ file ∈ asked, start.settled file = false ∧ checker.settled file = true
  keeps (file : String) : start.settled file = true → checker.settled file = true

theorem LoadsOnce.of_same {start checker after : Checker} (once : LoadsOnce start checker)
    (loads : after.loads = checker.loads) : LoadsOnce start after := by
  rwa [LoadsOnce, loads]

theorem settled_of_same {checker after : Checker} (openFiles : after.openFiles = checker.openFiles)
    (toplevel : after.bindings.toplevel = checker.bindings.toplevel) (file : String) :
    after.settled file = checker.settled file := by
  unfold Checker.settled Checker.isOpen Bindings.hasDefinitions Bindings.definitions
  rw [openFiles, toplevel]

namespace Loading

variable {start checker after : Checker} {file : String}

theorem refl (checker : Checker) : Loading checker checker :=
  ⟨⟨[], (List.append_nil _).symm, List.nodup_nil, nofun⟩, fun _ => id⟩

theorem once (loading : Loading start checker) : LoadsOnce start checker := by
  obtain ⟨asked, loads, distinct, each⟩ := loading.asked
  exact ⟨asked, loads, distinct, fun file member => (each file member).1⟩

/-- Nothing is asked for, and files stay settled. -/
theorem later (loading : Loading start checker) (loads : after.loads = checker.loads)
    (settled : ∀ file, checker.settled file = true → after.settled file = true) :
    Loading start after := by
  obtain ⟨asked, earlier, distinct, each⟩ := loading.asked
  exact ⟨⟨asked, loads ▸ earlier, distinct, fun file member =>
      ⟨(each file member).1, settled file (each file member).2⟩⟩,
    fun file before => settled file (loading.keeps file before)⟩

theorem of_same (loading : Loading start checker) (loads : after.loads = checker.loads)
    (openFiles : after.openFiles = checker.openFiles)
    (toplevel : after.bindings.toplevel = checker.bindings.toplevel) : Loading start after :=
  loading.later loads fun file settled => (settled_of_same openFiles toplevel file).trans settled

theorem define (loading : Loading start checker) (name : String) (binding : Binding) :
    Loading start
      { checker with bindings := checker.bindings.define checker.file name binding } :=
  loading.later rfl fun file settled => by
    rw [Checker.settled, Bool.or_eq_true] at settled ⊢
    exact settled.imp id fun defined => Bindings.hasDefinitions_define.mpr (.inr defined)

/-- A file that is not settled has not been asked for. -/
theorem asks (loading : Loading start checker) (new : checker.settled file = false) :
    ∃ asked : List String, (checker.loads.push file).toList = start.loads.toList ++ asked ∧
      asked.Nodup ∧ ∀ path ∈ asked, start.settled path = false ∧
        (checker.settled path || decide (path = file)) = true := by
  obtain ⟨asked, loads, distinct, each⟩ := loading.asked
  refine ⟨asked ++ [file], ?_, ?_, fun path member => ?_⟩
  · rw [Array.toList_push, loads, List.append_assoc]
  · refine List.nodup_append.mpr ⟨distinct, List.pairwise_singleton _ file, ?_⟩
    rintro path member _ last rfl
    rw [List.mem_singleton.mp last] at member
    exact Bool.false_ne_true (new.symm.trans (each file member).2)
  · rw [Bool.or_eq_true]
    rcases List.mem_append.mp member with earlier | last
    · exact (each path earlier).imp_right .inl
    · rw [List.mem_singleton.mp last]
      refine ⟨Bool.eq_false_iff.mpr fun before => ?_, .inr (decide_eq_true rfl)⟩
      exact Bool.false_ne_true (new.symm.trans (loading.keeps file before))

theorem missing (loading : Loading start checker) (new : checker.settled file = false) :
    LoadsOnce start { checker with loads := checker.loads.push file } := by
  obtain ⟨asked, loads, distinct, each⟩ := loading.asks new
  exact ⟨asked, loads, distinct, fun path member => (each path member).1⟩

/-- A file is settled as soon as its statements begin to run. -/
theorem beginFile (loading : Loading start checker) (new : checker.settled file = false) :
    Loading start (checker.beginFile file) := by
  have settled (path : String) : (checker.beginFile file).settled path =
      (checker.settled path || decide (path = file)) := by
    show ((checker.enterFile file).isOpen path || checker.bindings.hasDefinitions path) = _
    rw [isOpen_enterFile, Checker.settled, Bool.or_right_comm]
  obtain ⟨asked, loads, distinct, each⟩ := loading.asks new
  refine ⟨⟨asked, loads, distinct, fun path member => ?_⟩, fun path before => ?_⟩
  · rw [settled]
    exact each path member
  · rw [settled, loading.keeps path before, Bool.true_or]

/-- A file that has definitions stays settled when it is left. -/
theorem leaveFile (loading : Loading start checker)
    (defined : checker.bindings.hasDefinitions file = true) (previous : String) (scopes : Scopes) :
    Loading start (checker.leaveFile file previous scopes) := by
  refine loading.later rfl fun path settled => ?_
  rw [Checker.settled, isOpen_leaveFile]
  show (_ || checker.bindings.hasDefinitions path) = true
  by_cases same : path = file
  · rw [same, defined, Bool.or_true]
  · rwa [decide_eq_true same, Bool.and_true]

end Loading

/-! ### A check on its way -/

/-- A check beside itself, on its way from a state in which it is asked what it loads. -/
def Tandem.loading (start : Checker) : Tandem where
  together checker checker' := checker = checker' ∧ Loading start checker
  stopped checker checker' := checker = checker' ∧ LoadsOnce start checker
  quits _ := False

variable (start : Checker)

theorem loading_steady : (Tandem.loading start).Steady where
  file := by rintro _ _ ⟨rfl, _⟩; rfl
  heap := by rintro _ _ ⟨rfl, _⟩; rfl
  lookup _ := by rintro ⟨rfl, _⟩; rfl
  definitions _ := by rintro ⟨rfl, _⟩; rfl
  next := by rintro _ _ ⟨rfl, _⟩; rfl
  halts := And.imp_right Loading.once
  record _ := by rintro ⟨rfl, loading⟩; exact ⟨rfl, loading.of_same rfl rfl rfl⟩
  inlay _ _ := by rintro ⟨rfl, loading⟩; exact ⟨rfl, loading.of_same rfl rfl rfl⟩
  withHeap _ := by rintro ⟨rfl, loading⟩; exact ⟨rfl, loading.of_same rfl rfl rfl⟩
  bind _ _ := by rintro ⟨rfl, loading⟩; exact ⟨rfl, loading.of_same rfl rfl rfl⟩
  define name binding := by rintro ⟨rfl, loading⟩; exact ⟨rfl, loading.define name binding⟩
  block _ _ _ := by rintro ⟨rfl, loading⟩; exact ⟨rfl, loading.of_same rfl rfl rfl⟩

/-- A file that has been loaded is exposed if it has definitions, and else the check stops. -/
theorem expose_loading {start checker : Checker} (loading : Loading start checker)
    (span : Span) (name file previous : String) (scopes : Scopes) (typed : Program) :
    let after := { checker.leaveFile file previous scopes with
      modules := checker.modules.insert file typed }
    (Tandem.loading start).Ends (Visit.settle () (exposeFile span name file) after)
      (Visit.settle () (exposeFile span name file) after) := by
  intro after
  cases defined : checker.bindings.hasDefinitions file with
  | true =>
    have left := loading.leaveFile defined previous scopes
    exact (loading_steady start).exposeFile span name file after after
      ⟨rfl, left.of_same rfl rfl rfl⟩
  | false =>
    have none : after.bindings.hasDefinitions file = false := defined
    rw [Visit.settle_eq, outcome_exposeFile_none none]
    exact .stop ⟨rfl, loading.once.of_same rfl⟩

theorem loading_sound (setup : Setup) : (Tandem.loading start).Sound setup setup :=
  { loading_steady start with
    annotations := rfl
    loader := rfl
    extension := rfl
    arm := (loading_steady start).selectArm setup.settings.unknownArms
    enterScope := by rintro _ _ ⟨rfl, loading⟩; exact ⟨rfl, loading.of_same rfl rfl rfl⟩
    leaveScope := by rintro _ _ ⟨rfl, loading⟩; exact ⟨rfl, loading.of_same rfl rfl rfl⟩
    stopScope := by rintro _ _ ⟨rfl, once⟩; exact ⟨rfl, once.of_same rfl⟩
    recalled := by rintro _ _ _ _ ⟨rfl, _⟩; rfl
    refused := by rintro _ _ _ _ ⟨rfl, loading⟩; exact ⟨rfl, loading.once.of_same rfl⟩
    deep := by rintro _ _ _ ⟨rfl, _⟩ deep; exact .inr ⟨rfl, deep⟩
    shallow := by rintro _ _ ⟨rfl, _⟩; exact id
    beginBody := by
      rintro checker _ id ⟨rfl, loading⟩
      cases checker.closures.get? id with
      | none => exact .none
      | some closure =>
        exact .some ⟨rfl, fun args => ⟨rfl, loading.of_same rfl rfl
          (Inward.enterBody_toplevel _ closure args)⟩⟩
    endBody := by
      rintro _ _ _ _ _ _ _ _ ⟨rfl, _⟩ ⟨rfl, loading⟩
      exact ⟨rfl, loading.of_same rfl rfl rfl⟩
    stopBody := by
      rintro _ _ _ _ _ _ ⟨rfl, _⟩ ⟨rfl, once⟩
      exact ⟨rfl, once.of_same rfl⟩
    isOpen := by rintro _ _ _ _ ⟨rfl, _⟩; exact .inr rfl
    missing := by
      rintro _ _ _ ⟨rfl, loading⟩ closed unknown
      exact ⟨rfl, loading.missing (by rw [Checker.settled, closed, unknown]; rfl)⟩
    beginFile := by
      rintro _ _ _ ⟨rfl, loading⟩ closed unknown
      exact ⟨rfl, loading.beginFile (by rw [Checker.settled, closed, unknown]; rfl)⟩
    stopFile := by
      rintro _ _ _ _ _ ⟨rfl, _⟩ _ ⟨rfl, once⟩
      exact ⟨rfl, once.of_same rfl⟩
    expose := by
      rintro checker _ _ _ span name file typed ⟨rfl, _⟩ _ ⟨rfl, loading⟩
      exact expose_loading loading span name file checker.file checker.bindings.scopes typed }

/-! ### Requires, visits and checks -/

theorem Tandem.Ends.once {α β : Type} {start : Checker}
    {ended ended' : (α × Except Stop β) × Checker}
    (ends : (Tandem.loading start).Ends ended ended') : LoadsOnce start ended.2 := by
  cases ends with
  | quit never => exact never.elim
  | answer later => exact later.2.once
  | stop stopped => exact stopped.2

theorem runWithin_loads_once (setup : Setup) (levels : Nat) (occasion : Occasion)
    (program : Program) (checker : Checker) :
    LoadsOnce checker (runWithin setup levels occasion program checker).2 :=
  ((loading_sound checker setup).runWithin levels occasion program checker checker
    ⟨rfl, .refl checker⟩).once

/-- In every state, a require and a visit of a node ask the loader for different files, none of
which is being checked or has definitions at that moment; so this holds at the moment of each
require inside of a check. And so does a whole check, of its own file too, which is being checked
all the time. -/
theorem each_file_loaded_once (setup : Setup) :
    (∀ levels span name before,
      LoadsOnce before
        ((typeOfRequire setup (runWithin setup levels) span name).outcome before).2) ∧
    (∀ levels toplevel node before,
      LoadsOnce before (visitNode setup (runWithin setup levels) toplevel node before).2) ∧
    ∀ file program before,
      LoadsOnce (before.openFile file) (checkFile setup file program before).2 := by
  refine ⟨fun levels span name before => ?_, fun levels toplevel node before => ?_,
    fun file program before => ?_⟩
  · have sound := loading_sound before setup
    exact (sound.typeOfRequire (sound.runWithin levels) span name before before
      ⟨rfl, .refl before⟩).once
  · have sound := loading_sound before setup
    exact (sound.visitNode (sound.runWithin levels) toplevel node before before
      ⟨rfl, .refl before⟩).once
  · unfold checkFile
    cases opened : before.isOpen file with
    | true =>
      rw [checkWith_open _ _ _ _ opened]
      exact ⟨[], (List.append_nil _).symm, List.nodup_nil, nofun⟩
    | false =>
      rw [checkWith_closed _ _ _ _ opened]
      exact (runWithin_loads_once setup _ (.file file) program (before.enterFile file)).of_same rfl

/-- Two files that require the same third one. -/
def diamond : Setup :=
  ⟨.standard, .standard, Sources.loader (.ofList [("left.brie", [require "base"]),
    ("right.brie", [require "base"]), ("base.brie", [.untyped .origin (.define "x"
      (.untyped .origin (.literal (.integer 1))))])])⟩
where
  require (name : String) : Node := .untyped .origin (.require name)

example :
    (checkFile diamond "main.brie" [diamond.require "left", diamond.require "right"]
      .initial).2.loads = #["left.brie", "base.brie", "right.brie"] := by
  decide +kernel

end CallTyping
