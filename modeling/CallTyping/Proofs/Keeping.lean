/-
This file proves what holds for all trees that a check keeps: the programs of required
files and the bodies that were typed for calls. It is enough that it holds for what
the runs of statements give back with an answer, since such trees are put away at once
and never changed afterwards, and blocks stay as they were remembered.
-/

import CallTyping.Proofs.Blocks
import CallTyping.Proofs.Moment
import CallTyping.Proofs.Pending

namespace CallTyping

/-- What is to hold for trees that are kept, beside the trees that they were. -/
structure Trees where
  /-- The programs that files are served as. -/
  served : String → Program → Prop
  /-- The typed program of a file. -/
  file : Program → Program → Prop
  /-- The typed body of a call, with its result. -/
  body : Program → Program → Ty → Prop

/-- All trees that are kept in a state are so. -/
structure Recorded (trees : Trees) (checker : Checker) : Prop where
  bounded : checker.closures.Bounded
  blank : checker.closures.Fresh
  modules (path : String) (tree : Program) : checker.modules.get? path = some tree →
    ∃ source, trees.served path source ∧ trees.file source tree
  bodies (id : ClosureId) (entry : Specialization) : entry ∈ checker.cache.of id →
    ∀ result body, entry.progress = .done result body →
      ∃ closure, checker.closures.get? id = some closure ∧ trees.body closure.body body result

/-- Closures stay, and all trees that are kept are so. -/
structure Kept (trees : Trees) (before after : Checker) : Prop where
  closures : before.closures.Within after.closures
  recorded : Recorded trees after

namespace Kept

variable {trees : Trees}

theorem refl {checker : Checker} (recorded : Recorded trees checker) :
    Kept trees checker checker := ⟨fun _ _ known => known, recorded⟩

theorem trans {first second third : Checker} (left : Kept trees first second)
    (right : Kept trees second third) : Kept trees first third :=
  ⟨fun id closure known => right.closures id closure (left.closures id closure known),
    right.recorded⟩

end Kept

/-! ### The record of calls -/

namespace Cache

variable {cache : Cache} {heap : Heap} {closure id : ClosureId} {args : List Ty}
  {entry : Specialization}

theorem mem_replaceFirst {wanted : Specialization → Bool}
    {change : Specialization → List Specialization} {entries : List Specialization}
    (member : entry ∈ replaceFirst wanted change entries) :
    entry ∈ entries ∨ ∃ other ∈ entries, wanted other = true ∧ entry ∈ change other := by
  induction entries with
  | nil => exact .inl member
  | cons first rest inductionHypothesis =>
    rw [replaceFirst] at member
    split at member
    next found =>
      rcases List.mem_append.mp member with changed | old
      · exact .inr ⟨first, List.mem_cons_self, found, changed⟩
      · exact .inl (List.mem_cons_of_mem _ old)
    next =>
      rcases List.mem_cons.mp member with rfl | later
      · exact .inl List.mem_cons_self
      · rcases inductionHypothesis later with old | ⟨other, inside, changed⟩
        · exact .inl (List.mem_cons_of_mem _ old)
        · exact .inr ⟨other, List.mem_cons_of_mem _ inside, changed⟩

theorem mem_mark (member : entry ∈ (cache.mark closure args).of id) :
    entry ∈ cache.of id ∨ id = closure ∧ entry = ⟨args, .running⟩ := by
  unfold mark at member
  rw [of_insert] at member
  split at member
  next same =>
    subst same
    rcases List.mem_append.mp member with old | new
    · exact .inl old
    · exact .inr ⟨rfl, List.mem_singleton.mp new⟩
  next => exact .inl member

theorem mem_finish {result : Ty} {body : Program}
    (member : entry ∈ (cache.finish heap closure args result body).of id) :
    entry ∈ cache.of id ∨ id = closure ∧ ∃ marker ∈ cache.of id,
      isMarker heap args marker = true ∧
        entry = { marker with progress := .done result body } := by
  unfold finish at member
  rw [of_modify _ _ _ rfl] at member
  split at member
  next same =>
    rcases mem_replaceFirst member with old | ⟨marker, inside, found, changed⟩
    · exact .inl old
    · exact .inr ⟨same, marker, inside, found, List.mem_singleton.mp changed⟩
  next => exact .inl member

theorem mem_abandon (member : entry ∈ (cache.abandon heap closure args).of id) :
    entry ∈ cache.of id := by
  unfold abandon at member
  rw [of_modify _ _ _ rfl] at member
  split at member
  · rcases mem_replaceFirst member with old | ⟨other, -, -, changed⟩
    · exact old
    · cases changed
  · exact member

end Cache

namespace Recorded

variable {trees : Trees} {checker : Checker}

theorem initial (trees : Trees) : Recorded trees .initial where
  bounded _ _ known := nomatch known
  blank _ _ known := nomatch known
  modules _ _ known := nomatch known
  bodies _ _ member := nomatch member

/-- Only closures, modules and the record of calls are of account. -/
theorem moved {other : Checker} (recorded : Recorded trees checker)
    (closures : other.closures = checker.closures) (modules : other.modules = checker.modules)
    (cache : other.cache = checker.cache) : Recorded trees other where
  bounded := closures ▸ recorded.bounded
  blank := closures ▸ recorded.blank
  modules := modules ▸ recorded.modules
  bodies := by
    rw [closures, cache]
    exact recorded.bodies

/-- More programs may be served for a path. -/
theorem serves {served : String → Program → Prop} (recorded : Recorded trees checker)
    (implies : ∀ path source, trees.served path source → served path source) :
    Recorded { trees with served } checker :=
  { recorded with
    modules := fun path tree known => by
      obtain ⟨source, was, fine⟩ := recorded.modules path tree known
      exact ⟨source, implies path source was, fine⟩ }

/-- A change elsewhere keeps everything. -/
theorem kept {other : Checker} (recorded : Recorded trees checker)
    (closures : other.closures = checker.closures) (modules : other.modules = checker.modules)
    (cache : other.cache = checker.cache) : Kept trees checker other :=
  ⟨fun _ _ known => closures ▸ known, recorded.moved closures modules cache⟩

theorem markCall (recorded : Recorded trees checker) (id : ClosureId) (args : List Ty) :
    Recorded trees (checker.markCall id args) where
  bounded := recorded.bounded
  blank := recorded.blank
  modules := recorded.modules
  bodies other entry member result body done := by
    rcases Cache.mem_mark member with old | ⟨-, rfl⟩
    · exact recorded.bodies other entry old result body done
    · cases done

theorem abandonCall (recorded : Recorded trees checker) (id : ClosureId) (args : List Ty) :
    Recorded trees (checker.abandonCall id args) where
  bounded := recorded.bounded
  blank := recorded.blank
  modules := recorded.modules
  bodies other entry member := recorded.bodies other entry (Cache.mem_abandon member)

theorem finishCall (recorded : Recorded trees checker) {id : ClosureId} {args : List Ty}
    {closure : Closure} {result : Ty} {body : Program}
    (known : checker.closures.get? id = some closure) (fine : trees.body closure.body body result) :
    Recorded trees (checker.finishCall id args result body) where
  bounded := recorded.bounded
  blank := recorded.blank
  modules := recorded.modules
  bodies other entry member result' body' done := by
    rcases Cache.mem_finish member with old | ⟨rfl, marker, -, -, rfl⟩
    · exact recorded.bodies other entry old result' body' done
    · cases done
      exact ⟨closure, known, fine⟩

theorem keepModule (recorded : Recorded trees checker) {file : String} {source tree : Program}
    (serves : trees.served file source) (fine : trees.file source tree) :
    Recorded trees { checker with modules := checker.modules.insert file tree } where
  bounded := recorded.bounded
  blank := recorded.blank
  modules path other known := by
    by_cases same : path = file
    · subst same
      rw [OrderedMap.get?_insert_self] at known
      cases known
      exact ⟨source, serves, fine⟩
    · rw [OrderedMap.get?_insert_other _ _ _ _ same] at known
      exact recorded.modules path other known
  bodies := recorded.bodies

theorem remembered (recorded : Recorded trees checker) {closure : Closure}
    (blank : Blank (preorderNodes closure.body)) :
    Kept trees checker (Conduct.remembered checker closure) := by
  have within := Closures.within_remembered recorded.bounded closure
  refine ⟨within, Closures.bounded_remembered recorded.bounded,
    Closures.fresh_remembered recorded.blank blank, recorded.modules, ?_⟩
  intro id entry member result body done
  obtain ⟨other, known, fine⟩ := recorded.bodies id entry member result body done
  exact ⟨other, within id other known, fine⟩

end Recorded

/-! ### Passes -/

/-- All that is asked of the runs of statements. -/
structure RunsKeep (trees : Trees) (run : Runner) : Prop where
  kept (occasion : Occasion) (program : Program) (checker : Checker) :
    Recorded trees checker → Kept trees checker (run occasion program checker).2
  file {path : String} {program typed : Program} {types : List Ty} {checker after : Checker} :
    trees.served path program → run (.file path) program checker = ((typed, .ok types), after) →
      trees.file program typed
  body {id : ClosureId} {args : List Ty} {program typed : Program} {types : List Ty}
      {checker after : Checker} : Blank (preorderNodes program) →
    run (.body id args) program checker = ((typed, .ok types), after) →
      trees.body program typed (Ty.ofBody types)

section

variable {setup : Setup} {trees : Trees} {run : Runner}

theorem call_kept (runs : RunsKeep trees run) {span : Span} {id : ClosureId}
    {args : List Ty} {checker : Checker} {outcome : Except Stop Ty × Checker}
    (recorded : Recorded trees checker)
    (ends : CallEnds setup run span id args checker outcome) :
    Kept trees checker outcome.2 := by
  have begun (closure : Closure) : Recorded trees (checker.beginBody id closure args) :=
    (recorded.markCall id args).moved rfl rfl rfl
  cases ends with
  | known | running => exact recorded.kept rfl rfl rfl
  | tooDeep | unknown =>
    exact ⟨fun _ _ known => known, (recorded.markCall id args).abandonCall id args⟩
  | typed closure body types after _ _ present ran =>
    have inner := runs.kept (.body id args) closure.body _ (begun closure)
    rw [ran] at inner
    have left : Recorded trees (after.leaveBody checker.file checker.bindings.scopes) :=
      inner.recorded.moved rfl rfl rfl
    exact ⟨inner.closures, left.finishCall (inner.closures id closure present)
      (runs.body (recorded.blank id closure present) ran)⟩
  | failed closure body stop after _ _ _ ran =>
    have inner := runs.kept (.body id args) closure.body _ (begun closure)
    rw [ran] at inner
    have left : Recorded trees (after.leaveBody checker.file checker.bindings.scopes) :=
      inner.recorded.moved rfl rfl rfl
    exact ⟨inner.closures, left.abandonCall id args⟩

theorem load_kept (serves : ∀ path source, setup.loader.load path = .ok source →
      trees.served path source) (runs : RunsKeep trees run) {span : Span} {file : String}
    {checker : Checker} {outcome : Except Stop Unit × Checker}
    (recorded : Recorded trees checker)
    (ends : LoadEnds setup run span file checker outcome) :
    Kept trees checker outcome.2 := by
  have begun : Recorded trees (checker.beginFile file) := recorded.moved rfl rfl rfl
  cases ends with
  | missing => exact recorded.kept rfl rfl rfl
  | checked program typed types after loaded ran =>
    have inner := runs.kept (.file file) program _ begun
    rw [ran] at inner
    have left : Recorded trees (after.leaveFile file checker.file checker.bindings.scopes) :=
      inner.recorded.moved rfl rfl rfl
    have served := serves file program loaded
    exact ⟨inner.closures, left.keepModule served (runs.file served ran)⟩
  | failed program typed stop after loaded ran =>
    have inner := runs.kept (.file file) program _ begun
    rw [ran] at inner
    exact ⟨inner.closures, inner.recorded.moved rfl rfl rfl⟩

theorem kept_flow (serves : ∀ path source, setup.loader.load path = .ok source →
      trees.served path source) (runs : RunsKeep trees run) :
    Flow (fun before _ after => Recorded trees before → Kept trees before after) setup run where
  still _ := .refl
  trans left right recorded := (left recorded).trans (right (left recorded).recorded)
  fault _ _ _ _ := .refl
  record _ _ recorded := recorded.kept rfl rfl rfl
  inlay _ _ _ recorded := recorded.kept rfl rfl rfl
  bind _ _ _ _ recorded := recorded.kept rfl rfl rfl
  define _ _ _ _ recorded := recorded.kept rfl rfl rfl
  block _ _ body _ recorded := recorded.remembered (blank_freshNodes body)
  join _ _ _ _ _ _ recorded := recorded.kept rfl rfl rfl
  object _ _ recorded := recorded.kept rfl rfl rfl
  variant _ _ recorded := recorded.kept rfl rfl rfl
  addField _ _ _ _ _ recorded := recorded.kept rfl rfl rfl
  scope kept recorded :=
    have inner := kept (recorded.moved rfl rfl rfl)
    ⟨inner.closures, inner.recorded.moved rfl rfl rfl⟩
  call ends recorded := call_kept runs recorded ends
  load _ _ ends recorded := load_kept serves runs recorded ends

end

end CallTyping
