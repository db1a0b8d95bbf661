/-
This file proves that faults name the file they stand in. The current file is
changed by calls and loads only, and put back by both, so it is always the file of
the statements that are running. The statements of a body come from a block, which
remembers the file in which it was written; the copy that runs has the places of
the original. So every fault is raised at a place of a tree that was given under
the name of the current file, and no state on the way out changes what it says.
-/

import CallTyping.Proofs.Blocks
import CallTyping.Proofs.Completion

namespace CallTyping

/-! ### Places of copies -/

theorem span_fresh (arm : Arm) : arm.fresh.span = arm.span := by
  cases arm
  rfl

theorem armSpans_fresh (expr : Expr) : expr.fresh.armSpans = expr.armSpans := by
  cases expr with
  | caseOf scrutinee arms =>
    show (freshArms arms).map Arm.span = arms.map Arm.span
    induction arms with
    | nil => rfl
    | cons arm rest inductionHypothesis =>
      rw [freshArms, List.map_cons, List.map_cons, span_fresh, inductionHypothesis]
  | _ => rfl

/-- A fresh copy of a program stands in the same places. -/
theorem places_fresh (program : Program) : program.fresh.places = program.places := by
  show (preorderNodes (freshNodes program)).flatMap Node.places = _
  rw [preorder_freshNodes, List.flatMap_map]
  refine List.flatMap_congr fun node _ => ?_
  obtain ⟨span, slot, expr⟩ := node
  exact congrArg (span :: ·) (armSpans_fresh expr)

/-! ### Trees that were given -/

/-- What stays fixed during a check with regard to places: the trees that were given under names of
files before any load of the check, and the number of loads before it. -/
structure Provision where
  setup : Setup
  given : String → Program → Prop
  earlier : Nat

namespace Provision

variable (provision : Provision)

/-- A tree was given under this name, or loaded by the check. -/
def Has (checker : Checker) (file : String) (tree : Program) : Prop :=
  provision.given file tree ∨
    file ∈ checker.loads.toList.drop provision.earlier ∧
      provision.setup.loader.load file = .ok tree

/-- A tree that was given under this name has this place. -/
def Stands (checker : Checker) (file : String) (place : Span) : Prop :=
  ∃ tree, provision.Has checker file tree ∧ place ∈ tree.places

/-- All blocks stand in trees of the files that they remember. -/
structure Roots (checker : Checker) : Prop where
  begun : provision.earlier ≤ checker.loads.size
  blocks (id : ClosureId) (closure : Closure) : checker.closures.get? id = some closure →
    ∀ place ∈ closure.body.places, provision.Stands checker closure.file place

/-- The current file stays, and loads are added at the end. -/
structure Advances (before after : Checker) : Prop where
  file : after.file = before.file
  loads : before.loads.toList <+: after.loads.toList
  roots : provision.Roots after

/-- A pass advances, and if it ends in a fault, this stands in the file that it names. -/
structure Blames (before : Checker) (stop : Option Stop) (after : Checker) : Prop extends
    provision.Advances before after where
  stands (error : TypeError) : stop = some (.fault error) →
    provision.Stands after error.file error.span

/-- The conduct of a run that began in a certain state, on statements that stand in the file which
was current then. -/
def blaming (start : Checker) : Conduct where
  ready := provision.Advances start
  admits _ := True
  flow before stop after := provision.Advances start before → provision.Blames before stop after
  fits _ _ := True
  marks := provision.Stands start start.file

variable {provision} {before after checker : Checker} {file : String} {place : Span}

theorem Has.later (loads : before.loads.toList <+: after.loads.toList) {tree : Program}
    (has : provision.Has before file tree) : provision.Has after file tree := by
  refine has.imp_right fun loaded => ⟨?_, loaded.2⟩
  obtain ⟨new, same⟩ := loads
  rw [← same, List.drop_append]
  exact List.mem_append_left _ loaded.1

theorem Stands.later (loads : before.loads.toList <+: after.loads.toList)
    (stands : provision.Stands before file place) : provision.Stands after file place := by
  obtain ⟨tree, has, member⟩ := stands
  exact ⟨tree, has.later loads, member⟩

theorem Roots.later (roots : provision.Roots before)
    (loads : before.loads.toList <+: after.loads.toList)
    (closures : after.closures = before.closures) : provision.Roots after where
  begun := by
    have more := loads.length_le
    rw [Array.length_toList, Array.length_toList] at more
    exact Nat.le_trans roots.begun more
  blocks id closure known place member := by
    rw [closures] at known
    exact (roots.blocks id closure known place member).later loads

/-- Only the file, the loads and the closures are of account. -/
theorem Blames.of_same (roots : provision.Roots before) (file : after.file = before.file)
    (loads : after.loads = before.loads) (closures : after.closures = before.closures) :
    provision.Blames before none after :=
  ⟨⟨file, loads ▸ List.prefix_rfl, roots.later (loads ▸ List.prefix_rfl) closures⟩, nofun⟩

theorem Advances.trans {first second third : Checker} (left : provision.Advances first second)
    (right : provision.Advances second third) : provision.Advances first third :=
  ⟨right.file.trans left.file, left.loads.trans right.loads, right.roots⟩

theorem Blames.trans {first second third : Checker} {stop : Option Stop}
    (left : provision.Blames first none second) (right : provision.Blames second stop third) :
    provision.Blames first stop third :=
  ⟨left.toAdvances.trans right.toAdvances, right.stands⟩

/-- A fault that is raised at such a place stands there also in later states. -/
theorem Stands.blamed (stands : provision.Stands before file place)
    (loads : before.loads.toList <+: after.loads.toList) {fault : Fault} :
    ∀ error, some (Stop.fault ⟨file, place, fault⟩) = some (.fault error) →
      provision.Stands after error.file error.span := by
  rintro _ ⟨⟩
  exact stands.later loads

theorem Roots.remembered (roots : provision.Roots checker) {closure : Closure}
    (stands : ∀ place ∈ closure.body.places, provision.Stands checker closure.file place) :
    provision.Roots (Conduct.remembered checker closure) where
  begun := roots.begun
  blocks id other known := by
    rw [Closures.get?_remembered] at known
    split at known
    · cases known
      exact stands
    · exact roots.blocks id other known

end Provision

theorem Conduct.Ends.of_blames {α : Type} {provision : Provision} {start checker : Checker}
    {good : α → Checker → Prop} {outcome : Except Stop α × Checker}
    (fine : ∀ answer after, good answer after)
    (blames : provision.Advances start checker →
      provision.Blames checker (stopOf outcome.1) outcome.2) :
    (provision.blaming start).Ends checker good outcome := by
  intro ready
  obtain ⟨stop | answer, after⟩ := outcome
  · exact fun _ => blames ready
  · exact ⟨fun _ => blames ready, fine answer after⟩

/-! ### Passes -/

/-- A run of statements that stand in the current file blames trees that were given. -/
def RunsBlaming (provision : Provision) (run : Runner) : Prop :=
  ∀ occasion program (checker : Checker), provision.Roots checker →
    (∀ place ∈ Program.places program, provision.Stands checker checker.file place) →
      provision.Blames checker (stopOf (run occasion program checker).1.2)
        (run occasion program checker).2

section

variable {provision : Provision} {run : Runner}

theorem call_blames (runs : RunsBlaming provision run) {span : Span} {id : ClosureId}
    {args : List Ty} {checker : Checker} {outcome : Except Stop Ty × Checker}
    (roots : provision.Roots checker) (stands : provision.Stands checker checker.file span)
    (ends : CallEnds provision.setup run span id args checker outcome) :
    provision.Blames checker (stopOf outcome.1) outcome.2 := by
  have begun (closure : Closure) : provision.Roots (checker.beginBody id closure args) :=
    roots.later List.prefix_rfl rfl
  cases ends with
  | known => exact .of_same roots rfl rfl rfl
  | running | tooDeep | unknown =>
    exact ⟨⟨rfl, List.prefix_rfl, roots.later List.prefix_rfl rfl⟩, stands.blamed List.prefix_rfl⟩
  | typed closure body types after _ _ present ran =>
    have inner := runs (.body id args) closure.body _ (begun closure)
      (roots.blocks id closure present)
    rw [ran] at inner
    exact ⟨⟨rfl, inner.loads, inner.roots.later List.prefix_rfl rfl⟩, nofun⟩
  | failed closure body stop after _ _ present ran =>
    have inner := runs (.body id args) closure.body _ (begun closure)
      (roots.blocks id closure present)
    rw [ran] at inner
    exact ⟨⟨rfl, inner.loads, inner.roots.later List.prefix_rfl rfl⟩, inner.stands⟩

theorem load_blames (runs : RunsBlaming provision run) {span : Span} {file : String}
    {checker : Checker} {outcome : Except Stop Unit × Checker}
    (roots : provision.Roots checker) (stands : provision.Stands checker checker.file span)
    (ends : LoadEnds provision.setup run span file checker outcome) :
    provision.Blames checker (stopOf outcome.1) outcome.2 := by
  have pushed : checker.loads.toList <+: (checker.loads.push file).toList := by
    rw [Array.toList_push]
    exact List.prefix_append _ _
  have begun : provision.Roots (checker.beginFile file) := roots.later pushed rfl
  have given (program : Program) (loaded : provision.setup.loader.load file = .ok program) :
      ∀ place ∈ program.places, provision.Stands (checker.beginFile file) file place := by
    refine fun place member => ⟨program, .inr ⟨?_, loaded⟩, member⟩
    show file ∈ (checker.loads.push file).toList.drop provision.earlier
    rw [Array.toList_push, List.drop_append_of_le_length roots.begun]
    exact List.mem_append_right _ (List.mem_singleton.mpr rfl)
  cases ends with
  | missing => exact ⟨⟨rfl, pushed, roots.later pushed rfl⟩, stands.blamed pushed⟩
  | checked program typed types after loaded ran =>
    have inner := runs (.file file) program _ begun (given program loaded)
    rw [ran] at inner
    exact ⟨⟨rfl, pushed.trans inner.loads, inner.roots.later List.prefix_rfl rfl⟩, nofun⟩
  | failed program typed stop after loaded ran =>
    have inner := runs (.file file) program _ begun (given program loaded)
    rw [ran] at inner
    exact ⟨⟨rfl, pushed.trans inner.loads, inner.roots.later List.prefix_rfl rfl⟩, inner.stands⟩

theorem blaming_sound (runs : RunsBlaming provision run) (start : Checker) :
    (provision.blaming start).Sound provision.setup run :=
  have same {before after : Checker} (file : after.file = before.file)
      (loads : after.loads = before.loads) (closures : after.closures = before.closures) :
      (provision.blaming start).flow before none after :=
    fun ready => .of_same ready.roots file loads closures
  have stands {checker : Checker} {place : Span} (ready : provision.Advances start checker)
      (marked : provision.Stands start start.file place) :
      provision.Stands checker checker.file place :=
    ready.file ▸ marked.later ready.loads
  { still := fun _ => same rfl rfl rfl
    trans := fun left right ready =>
      (left ready).trans (right (ready.trans (left ready).toAdvances))
    stays := fun flow ready => ready.trans (flow ready).toAdvances
    fault := fun _ _ _ marked _ ready =>
      ⟨⟨rfl, List.prefix_rfl, ready.roots⟩, (stands ready marked).blamed List.prefix_rfl⟩
    refilled := fun _ _ _ _ marked _ ready =>
      ⟨⟨rfl, List.prefix_rfl, ready.roots⟩, (stands ready marked).blamed List.prefix_rfl⟩
    record := fun _ _ => same rfl rfl rfl
    inlay := fun _ _ _ _ => same rfl rfl rfl
    bind := fun _ _ _ _ _ => same rfl rfl rfl
    define := fun _ _ _ _ _ => same rfl rfl rfl
    block := fun checker params body span marked => by
      refine ⟨fun ready => ⟨⟨rfl, List.prefix_rfl, ready.roots.remembered ?_⟩, nofun⟩, trivial⟩
      intro place member
      rw [places_fresh] at member
      exact stands ready (marked place member)
    join := fun _ _ _ _ _ _ _ _ => same rfl rfl rfl
    object := fun _ _ _ => ⟨same rfl rfl rfl, trivial⟩
    variant := fun _ _ _ _ => ⟨same rfl rfl rfl, trivial⟩
    addField := fun _ _ _ _ _ _ _ => same rfl rfl rfl
    keeps := fun _ _ => trivial
    unit := fun _ => trivial
    literal := fun _ _ => trivial
    lookup := fun _ _ _ _ _ => trivial
    field := fun _ _ _ _ _ _ _ => trivial
    tag := fun _ _ _ _ _ _ _ _ _ => trivial
    exported := fun _ _ _ _ _ _ => trivial
    supply := fun _ _ _ _ _ _ _ _ => trivial
    opens := fun ready => ⟨ready.file, ready.loads, ready.roots.later List.prefix_rfl rfl⟩
    enter := fun _ => trivial
    leave := fun _ => trivial
    scope := fun flow ready => by
      have inner := flow ⟨ready.file, ready.loads, ready.roots.later List.prefix_rfl rfl⟩
      exact ⟨⟨inner.file, inner.loads, inner.roots.later List.prefix_rfl rfl⟩, inner.stands⟩
    call := fun checker span id _ bound args marked _ _ _ =>
      .of_blames (fun _ _ => trivial) fun ready =>
        call_blames runs ready.roots (stands ready marked)
          (runClosure_ends provision.setup run span id (bound ++ args) checker)
    load := fun checker span file marked _ _ =>
      .of_blames (fun _ _ => trivial) fun ready =>
        load_blames runs ready.roots (stands ready marked)
          (loadFile_ends provision.setup run span file checker) }

end

/-! ### Runs and checks -/

theorem runWithin_blames (provision : Provision) (levels : Nat) :
    RunsBlaming provision (runWithin provision.setup levels) := by
  induction levels with
  | zero =>
    exact fun _ _ _ roots _ => ⟨⟨rfl, List.prefix_rfl, roots⟩, fun _ gaveUp => nomatch gaveUp⟩
  | succ levels inductionHypothesis =>
    intro occasion program checker roots stands
    have ready : provision.Advances checker checker := ⟨rfl, List.prefix_rfl, roots⟩
    refine ((blaming_sound inductionHypothesis checker).visitNodes occasion.isFile checker program
      fun node member => ⟨trivial, fun place own => ?_⟩).flow ready ready
    exact stands place (List.mem_flatMap.mpr ⟨node, member, own⟩)

/-- A tree that was given under the name of a file in a sequence of checks: as the program of a
check, or by the loader of a check that loaded the file. -/
def Given (requests : List Request) (file : String) (tree : Program) : Prop :=
  ∃ past request, past ++ [request] <+: requests ∧
    (file = request.file ∧ tree = request.program ∨
      file ∈ (Checker.after (past ++ [request])).loads.toList.drop
          (Checker.after past).loads.size ∧
        request.setup.loader.load file = .ok tree)

theorem Given.later {past requests : List Request} (prior : past <+: requests) {file : String}
    {tree : Program} (given : Given past file tree) : Given requests file tree := by
  obtain ⟨older, request, before, how⟩ := given
  exact ⟨older, request, before.trans prior, how⟩

/-- What is provided for a check after other ones. -/
def provided (past : List Request) (request : Request) : Provision where
  setup := request.setup
  given file tree := Given past file tree ∨ file = request.file ∧ tree = request.program
  earlier := (Checker.after past).loads.size

/-- All blocks that are known after a sequence of checks stand in trees of the files that they
remember. -/
def Rooted (requests : List Request) : Prop :=
  ∀ id closure, (Checker.after requests).closures.get? id = some closure →
    ∀ place ∈ closure.body.places, ∃ tree, Given requests closure.file tree ∧ place ∈ tree.places

/-- The run of a check, in which all blocks that it finds are rooted. -/
theorem check_blames {past : List Request} (rooted : Rooted past) (request : Request) :
    let entered := (Checker.after past).enterFile request.file
    let ran := runWithin request.setup ((Checker.after past).headroom request.setup + 1)
      (.file request.file) request.program entered
    (provided past request).Blames entered (stopOf ran.1.2) ran.2 := by
  refine runWithin_blames (provided past request) _ _ request.program _ ⟨Nat.le_refl _, ?_⟩ ?_
  · intro id closure known place member
    obtain ⟨tree, given, inside⟩ := rooted id closure known place member
    exact ⟨tree, .inl (.inl given), inside⟩
  · exact fun place member => ⟨request.program, .inl (.inr ⟨rfl, rfl⟩), member⟩

/-- Whatever stands in the file of a tree during a check does so after it. -/
theorem given_of_stands {past : List Request} {request : Request} {checker : Checker}
    (loads : (Checker.after (past ++ [request])).loads = checker.loads) {file : String}
    {place : Span} (stands : (provided past request).Stands checker file place) :
    ∃ tree, Given (past ++ [request]) file tree ∧ place ∈ tree.places := by
  obtain ⟨tree, (given | own) | loaded, member⟩ := stands
  · exact ⟨tree, given.later (List.prefix_append _ _), member⟩
  · exact ⟨tree, ⟨past, request, List.prefix_rfl, .inl own⟩, member⟩
  · exact ⟨tree, ⟨past, request, List.prefix_rfl, .inr (loads ▸ loaded)⟩, member⟩

theorem after_rooted (requests : List Request) : Rooted requests := by
  induction requests using List.reverseRecOn with
  | nil => exact fun _ _ known => nomatch known
  | append_singleton past request inductionHypothesis =>
    have blames := check_blames inductionHypothesis request
    intro id closure known place member
    rw [after_check] at known
    exact given_of_stands (congrArg Checker.loads (after_check past request))
      (blames.roots.blocks id closure known place member)

/-- A check that does not pass ends in a fault. A tree was given under the file that the fault
names, by this check or an earlier one, and has a node or an arm at the place of the fault. -/
theorem fault_stands_in_its_file (past : List Request) (request : Request) {stop : Stop}
    (stopped : (checkFile request.setup request.file request.program
      (Checker.after past)).1.2 = .error stop) :
    ∃ error, stop = .fault error ∧ ∃ tree, Given (past ++ [request]) error.file tree ∧
      error.span ∈ tree.places := by
  have blames := check_blames (after_rooted past) request
  cases stop with
  | exhausted => exact absurd stopped (check_ends past request)
  | fault error =>
    rw [checkFile_of_closed _ _ _ (after_closed past request.file), ← stopOf_eq_some, stopOf_map]
      at stopped
    exact ⟨error, rfl, given_of_stands (congrArg Checker.loads (after_check past request))
      (blames.stands error stopped)⟩

/-! ### A fault in a function of another file -/

/-- A file with a function that reads a field of its argument in the arm of a match. -/
def fieldReader : Sources :=
  .singleton "lib.brie" [.untyped ⟨0, 60⟩ (.define "f" (.untyped ⟨5, 60⟩ (.block ["p"]
    [.untyped ⟨12, 58⟩ (.caseOf (.untyped ⟨18, 19⟩ (.ident "p"))
      [.mk ⟨26, 50⟩ "A" [.untyped ⟨28, 29⟩ (.ident "x")]
        [.untyped ⟨33, 42⟩ (.dot (.untyped ⟨33, 34⟩ (.ident "x")) "missing")]])])))]

/-- Calls of that function from another file, of which the second one fails. -/
def fieldCalls : Request :=
  ⟨⟨.standard, .standard, fieldReader.loader⟩, "main.brie",
    [.untyped ⟨0, 11⟩ (.require "lib"), call 12 (.untyped ⟨23, 40⟩ (.object [])),
     call 50 (.untyped ⟨61, 65⟩ (.literal (.bool true)))]⟩
where
  call (start : Nat) (arg : Node) : Node :=
    .untyped ⟨start, start + 30⟩ (.call
      [.untyped ⟨start, start + 5⟩ (.dot (.untyped ⟨start, start + 3⟩ (.ident "lib")) "f"),
       .untyped ⟨start + 6, start + 29⟩ (.variant "A" [arg])])

/-- The file and the place to which a stop points. -/
def Stop.place? : Stop → Option (String × Span)
  | .fault error => some (error.file, error.span)
  | .exhausted => none

/-- The fault points into the arm of the function, not to its call. -/
theorem fieldCalls_fault :
    ∃ error, (checkFile fieldCalls.setup fieldCalls.file fieldCalls.program
        (Checker.after [])).1.2 = .error (.fault error) ∧
      (error.file, error.span) = ("lib.brie", ⟨33, 34⟩) ∧
      ∃ tree, Given [fieldCalls] error.file tree ∧ error.span ∈ tree.places := by
  have there : (stopOf (checkFile fieldCalls.setup fieldCalls.file fieldCalls.program
      (Checker.after [])).1.2).bind Stop.place? = some ("lib.brie", ⟨33, 34⟩) := by decide +kernel
  obtain ⟨stop, raised, place⟩ := Option.bind_eq_some_iff.mp there
  have stopped := stopOf_eq_some.mp raised
  obtain ⟨error, rfl, stands⟩ := fault_stands_in_its_file [] fieldCalls stopped
  exact ⟨error, stopped, Option.some.inj place, stands⟩

end CallTyping
