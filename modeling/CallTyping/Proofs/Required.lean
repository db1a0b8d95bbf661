/-
This file proves that a file that is required is checked as if it were checked by
itself. The check inside of another one has one frame more, and the other file is
open as well; the check by itself has neither. Nothing else of the outer check is
seen: both go beside each other, every frame of one being the next frame of the
other, unless a require leads back to the outer file. At the end the required file
is exposed if it has definitions.
-/

import CallTyping.Proofs.Completion
import CallTyping.Proofs.Parallel
import CallTyping.Proofs.Tandem

namespace CallTyping

/-! ### One frame more -/

/-- The cells above another one. -/
def Arena.above {α : Type} (arena : Arena α) (lowest : α) : Arena α := ⟨#[lowest] ++ arena.cells⟩

namespace Arena

variable {α : Type}

theorem get?_above (arena : Arena α) (lowest : α) (index : Nat) :
    (arena.above lowest).get? (index + 1) = arena.get? index := by
  rw [get?, above, Array.getElem?_append_right (Nat.le_add_left 1 index)]
  rfl

theorem set_above (arena : Arena α) (lowest : α) (index : Nat) (value : α) :
    (arena.above lowest).set (index + 1) value = (arena.set index value).above lowest := by
  rw [set, above, Array.setIfInBounds_append_right (Nat.le_add_left 1 index)]
  rfl

theorem allocate_above (arena : Arena α) (lowest value : α) :
    (arena.above lowest).allocate value =
      ((arena.allocate value).1 + 1, (arena.allocate value).2.above lowest) := by
  rw [allocate, allocate, above, above, Array.size_append, Nat.add_comm, Array.append_push]
  rfl

end Arena

def FrameId.next (id : FrameId) : FrameId := ⟨id.index + 1⟩

/-- A stack of the next frames. -/
def Scopes.next (scopes : Scopes) : Scopes :=
  ⟨scopes.innermost.next, scopes.outer.map FrameId.next⟩

namespace Scopes

theorem frames_next (scopes : Scopes) : scopes.next.frames = scopes.frames.map FrameId.next := rfl

theorem pop_next (scopes : Scopes) : scopes.next.pop = scopes.pop.next := by
  obtain ⟨innermost, _ | ⟨frame, outer⟩⟩ := scopes <;> rfl

end Scopes

/-- The bindings above an empty frame that no stack holds. -/
def Bindings.lifted (bindings : Bindings) : Bindings :=
  { bindings with frames := bindings.frames.above .empty, scopes := bindings.scopes.next }

namespace Bindings

theorem frame_lifted (bindings : Bindings) (id : FrameId) :
    bindings.lifted.frame id.next = bindings.frame id := by
  rw [frame, frame, ← bindings.frames.get?_above .empty id.index]
  rfl

theorem lookup_lifted (bindings : Bindings) (file name : String) :
    bindings.lifted.lookup file name = bindings.lookup file name := by
  have holder : bindings.lifted.holder? name = (bindings.holder? name).map FrameId.next := by
    rw [holder?, holder?, lifted, Scopes.frames_next, List.find?_map]
    exact congrArg (fun known => (bindings.scopes.frames.find? known).map FrameId.next)
      (funext fun id => congrArg (OrderedMap.contains · name) (bindings.frame_lifted id))
  rw [lookup, lookup, holder]
  cases bindings.holder? name with
  | none => rfl
  | some id =>
    dsimp only [Option.map_some]
    rw [frame_lifted]

theorem bind_lifted (bindings : Bindings) (name : String) (binding : Binding) :
    bindings.lifted.bind name binding = (bindings.bind name binding).lifted := by
  have inner := bindings.frame_lifted bindings.scopes.innermost
  have frames := bindings.frames.set_above .empty bindings.scopes.innermost.index
    ((bindings.frame bindings.scopes.innermost).insert name binding)
  unfold bind lifted
  rw [← frames, ← inner]
  rfl

theorem enter_lifted (bindings : Bindings) : bindings.lifted.enter = bindings.enter.lifted := by
  unfold enter lifted
  rw [bindings.frames.allocate_above]
  rfl

theorem leave_lifted (bindings : Bindings) : bindings.lifted.leave = bindings.leave.lifted := by
  rw [leave, leave, lifted, lifted, Scopes.pop_next]

theorem withNewRoot_lifted (bindings : Bindings) :
    bindings.lifted.withNewRoot = bindings.withNewRoot.lifted := by
  unfold withNewRoot lifted
  rw [bindings.frames.allocate_above]
  rfl

/-- Parameters are bound alike. -/
theorem bindAll_lifted (span : Span) (given : List (String × Ty)) (bindings : Bindings) :
    given.foldl (fun bindings (name, ty) => bindings.bind name ⟨ty, span⟩) bindings.lifted =
      (given.foldl (fun bindings (name, ty) => bindings.bind name ⟨ty, span⟩) bindings).lifted := by
  induction given generalizing bindings with
  | nil => rfl
  | cons entry rest inductionHypothesis =>
    rw [List.foldl_cons, List.foldl_cons, ← inductionHypothesis, ← bind_lifted]

end Bindings

/-- A block that was written in the next frames. -/
def Closure.lifted (closure : Closure) : Closure := { closure with scopes := closure.scopes.next }

/-! ### States inside of another check -/

/-- A state inside of the check of another file, and a state of a check by itself. -/
structure Nested (outer : String) (inside alone : Checker) : Prop where
  heap : inside.heap = alone.heap
  bindings : inside.bindings = alone.bindings.lifted
  next : inside.closures.next = alone.closures.next
  known : inside.closures.known.Pairs (fun closure closure' => closure = closure'.lifted)
    alone.closures.known
  cache : inside.cache = alone.cache
  file : inside.file = alone.file
  isOpen (file : String) : inside.isOpen file = (alone.isOpen file || decide (file = outer))
  callDepth : inside.callDepth = alone.callDepth
  modules : inside.modules = alone.modules
  inlays : inside.inlays = alone.inlays

namespace Nested

variable {outer : String} {inside alone : Checker}

theorem lookup (nested : Nested outer inside alone) (name : String) :
    inside.lookup name = alone.lookup name := by
  rw [Checker.lookup, Checker.lookup, nested.bindings, nested.file, Bindings.lookup_lifted]

theorem definitions (nested : Nested outer inside alone) (file : String) :
    inside.definitions file = alone.definitions file := by
  rw [Checker.definitions, nested.bindings]
  rfl

theorem get? (nested : Nested outer inside alone) (id : ClosureId) :
    Option.Rel (fun closure closure' => closure = closure'.lifted) (inside.closures.get? id)
      (alone.closures.get? id) :=
  OrderedMap.Pairs.get? nested.known id

theorem withBindings (nested : Nested outer inside alone) {bindings bindings' : Bindings}
    (lifted : bindings = bindings'.lifted) :
    Nested outer { inside with bindings } { alone with bindings := bindings' } :=
  { nested with bindings := lifted }

theorem bind (nested : Nested outer inside alone) (name : String) (binding : Binding) :
    Nested outer { inside with bindings := inside.bindings.bind name binding }
      { alone with bindings := alone.bindings.bind name binding } :=
  nested.withBindings (by rw [nested.bindings, Bindings.bind_lifted])

theorem define (nested : Nested outer inside alone) (name : String) (binding : Binding) :
    Nested outer { inside with bindings := inside.bindings.define inside.file name binding }
      { alone with bindings := alone.bindings.define alone.file name binding } :=
  nested.withBindings (by
    rw [nested.bindings, nested.file]
    rfl)

theorem inlay (nested : Nested outer inside alone) (span : Span) (ty : Ty) :
    Nested outer { inside with inlays := inside.inlays.push ⟨inside.file, span, ty⟩ }
      { alone with inlays := alone.inlays.push ⟨alone.file, span, ty⟩ } :=
  { nested with
    inlays := by
      show inside.inlays.push ⟨inside.file, span, ty⟩ = alone.inlays.push ⟨alone.file, span, ty⟩
      rw [nested.inlays, nested.file] }

theorem block (nested : Nested outer inside alone) (params : List String) (body : Program)
    (span : Span) :
    Nested outer
      (Conduct.remembered inside ⟨params, body, span, inside.file, inside.bindings.scopes⟩)
      (Conduct.remembered alone ⟨params, body, span, alone.file, alone.bindings.scopes⟩) :=
  { nested with
    next := congrArg (· + 1) nested.next
    known := by
      have same : inside.closures.reserve.1 = alone.closures.reserve.1 :=
        congrArg ClosureId.mk nested.next
      show (inside.closures.known.insert inside.closures.reserve.1 _).Pairs _
        (alone.closures.known.insert alone.closures.reserve.1 _)
      rw [same, nested.file, nested.bindings]
      exact nested.known.insert _ rfl }

theorem enterScope (nested : Nested outer inside alone) :
    Nested outer inside.enterScope alone.enterScope :=
  nested.withBindings (by rw [nested.bindings, Bindings.enter_lifted])

theorem leaveScope (nested : Nested outer inside alone) :
    Nested outer inside.leaveScope alone.leaveScope :=
  nested.withBindings (by rw [nested.bindings, Bindings.leave_lifted])

theorem beginBody (nested : Nested outer inside alone) (id : ClosureId) (closure : Closure)
    (args : List Ty) :
    Nested outer (inside.beginBody id closure.lifted args) (alone.beginBody id closure args) :=
  { nested with
    bindings := by
      show (closure.params.zip args).foldl
        (fun bindings (name, ty) => bindings.bind name ⟨ty, closure.span⟩)
        (inside.bindings.withScopes closure.scopes.next).enter = _
      have scopes : inside.bindings.withScopes closure.scopes.next =
          (alone.bindings.withScopes closure.scopes).lifted := by
        rw [nested.bindings]
        rfl
      rw [scopes, Bindings.enter_lifted, Bindings.bindAll_lifted]
      rfl
    cache := congrArg (·.mark id args) nested.cache
    file := rfl
    callDepth := congrArg (· + 1) nested.callDepth }

/-- Both come back to their callers. -/
theorem endBody {inside' alone' : Checker} (callers : Nested outer inside alone)
    (nested : Nested outer inside' alone') (id : ClosureId) (args : List Ty) (result : Ty)
    (body : Program) :
    Nested outer
      ((inside'.leaveBody inside.file inside.bindings.scopes).finishCall id args result body)
      ((alone'.leaveBody alone.file alone.bindings.scopes).finishCall id args result body) :=
  { nested with
    bindings := by
      show inside'.bindings.withScopes inside.bindings.scopes =
        (alone'.bindings.withScopes alone.bindings.scopes).lifted
      rw [nested.bindings, callers.bindings]
      rfl
    cache := by
      show inside'.cache.finish inside'.heap id args result body =
        alone'.cache.finish alone'.heap id args result body
      rw [nested.cache, nested.heap]
    file := callers.file
    callDepth := congrArg (· - 1) nested.callDepth }

theorem beginFile (nested : Nested outer inside alone) (file : String) :
    Nested outer (inside.beginFile file) (alone.beginFile file) :=
  { nested with
    bindings := by
      show inside.bindings.withNewRoot = alone.bindings.withNewRoot.lifted
      rw [nested.bindings, Bindings.withNewRoot_lifted]
    file := rfl
    isOpen := fun path => by
      show (inside.enterFile file).isOpen path = ((alone.enterFile file).isOpen path || _)
      rw [isOpen_enterFile, isOpen_enterFile, nested.isOpen, Bool.or_right_comm] }

/-- Both come back to the file that was current before, which is not the outer one. -/
theorem leaveFile {inside' alone' : Checker} (before : Nested outer inside alone)
    (nested : Nested outer inside' alone') {file : String} (apart : file ≠ outer) :
    Nested outer (inside'.leaveFile file inside.file inside.bindings.scopes)
      (alone'.leaveFile file alone.file alone.bindings.scopes) :=
  { nested with
    bindings := by
      show inside'.bindings.withScopes inside.bindings.scopes =
        (alone'.bindings.withScopes alone.bindings.scopes).lifted
      rw [nested.bindings, before.bindings]
      rfl
    file := before.file
    isOpen := fun path => by
      rw [isOpen_leaveFile, isOpen_leaveFile, nested.isOpen]
      by_cases same : path = file
      · subst same
        simp [apart]
      · simp [same] }

end Nested

/-! ### Both checks beside each other -/

/-- A check inside of another one goes beside a check by itself until a require leads back. -/
def Tandem.nested (outer : String) : Tandem where
  together := Nested outer
  stopped _ _ := True
  quits stop := ∃ place span, stop = .fault ⟨place, span, .circularRequire outer⟩

theorem nested_steady (outer : String) : (Tandem.nested outer).Steady where
  file nested := nested.file.symm
  heap nested := nested.heap.symm
  lookup name nested := (nested.lookup name).symm
  definitions file nested := (nested.definitions file).symm
  next nested := nested.next.symm
  halts _ := trivial
  record _ nested := { nested with }
  inlay span ty nested := nested.inlay span ty
  withHeap _ nested := { nested with heap := rfl }
  bind name binding nested := nested.bind name binding
  define name binding nested := nested.define name binding
  block params body span nested := nested.block params body span

theorem nested_sound (setup : Setup) (outer : String) : (Tandem.nested outer).Sound setup setup :=
  { nested_steady outer with
    annotations := rfl
    loader := rfl
    extension := rfl
    arm := (nested_steady outer).selectArm setup.settings.unknownArms
    enterScope := Nested.enterScope
    leaveScope := Nested.leaveScope
    stopScope := fun _ => trivial
    recalled := fun id args nested => by rw [nested.cache, nested.heap]
    refused := fun _ _ _ => trivial
    deep := fun _ nested deep => .inr ⟨rfl, nested.callDepth ▸ deep⟩
    shallow := fun nested shallow => nested.callDepth ▸ shallow
    beginBody := fun {inside alone} id nested => by
      have known := nested.get? id
      generalize inside.closures.get? id = found, alone.closures.get? id = found' at known ⊢
      cases known with
      | none => exact .none
      | some same =>
        subst same
        exact .some ⟨rfl, nested.beginBody id _⟩
    endBody := fun id args result body callers nested => callers.endBody nested id args result body
    stopBody := fun _ _ _ _ => trivial
    isOpen := fun span file nested => by
      rw [nested.isOpen]
      by_cases same : file = outer
      · subst same
        exact .inl ⟨⟨_, span, rfl⟩, by simp⟩
      · exact .inr (by simp [same])
    missing := fun _ _ _ _ => trivial
    beginFile := fun file nested _ _ => nested.beginFile file
    stopFile := fun _ _ _ _ => trivial
    expose := fun span name file typed before closed nested => by
      have apart : file ≠ outer := by
        rintro rfl
        simp [before.isOpen] at closed
      have left := before.leaveFile nested apart
      exact (nested_steady outer).exposeFile span name file _ _
        { left with modules := congrArg (·.insert file typed) nested.modules } }

/-! ### A program that only requires a file -/

/-- The program that only requires a file. -/
def requireOnly (span : Span) (name : String) : Program := [.untyped span (.require name)]

/-- Its statement comes to what the require comes to. -/
theorem visitNodes_requireOnly (setup : Setup) (run : Runner) (toplevel : Bool) (span : Span)
    (name : String) (checker : Checker) :
    let asked := (typeOfRequire setup run span name).outcome
      { checker with log := checker.log.push (.visiting (Expr.require name).kindName span) }
    visitNodes setup run toplevel (requireOnly span name) checker =
      (([.mk span asked.1.toOption (.require name)], asked.1.map ([·])), asked.2) := by
  intro asked
  have node : visitNode setup run toplevel (.untyped span (.require name)) checker =
      ((.mk span asked.1.toOption (.require name), asked.1), asked.2) := by
    unfold Node.untyped visitNode visitExpr
    rfl
  rw [requireOnly, visitNodes, Visit.andThen, node]
  rcases asked.1 with stop | ty
  · rfl
  · rfl

/-- The state in which its require is come to. -/
def atRequire (main : String) (span : Span) : Checker :=
  let checker := Checker.initial.enterFile main
  { checker with log := checker.log.push (.visiting (Expr.require "").kindName span) }

/-- Its check comes to what the require comes to. -/
theorem checkFile_requireOnly (setup : Setup) (main name : String) (span : Span) :
    let run := runWithin setup (Checker.initial.headroom setup + 1)
    let asked := (typeOfRequire setup run span name).outcome (atRequire main span)
    checkFile setup main (requireOnly span name) .initial =
      (([.mk span asked.1.toOption (.require name)], asked.1.map fun _ => ()),
        asked.2.leaveFile main "" Bindings.empty.scopes) := by
  intro run asked
  -- One more level is left to the required file, as its own check has.
  have more := @checkFile_more ⟨setup, main, requireOnly span name⟩ .initial _
    (Nat.lt_succ_of_lt (Nat.lt_succ_self _)) (check_ends [] _)
  rw [← more, checkWith_closed _ _ _ _ rfl]
  have ran : runWithin setup (Checker.initial.headroom setup + 2) (.file main)
      (requireOnly span name) (Checker.initial.enterFile main) =
        (([.mk span asked.1.toOption (.require name)], asked.1.map ([·])), asked.2) :=
    visitNodes_requireOnly setup run true span name _
  clear_value asked
  rw [ran]
  obtain ⟨_ | _, after⟩ := asked <;> rfl

/-- What is known when a file has been required, beside what its own check has found: the file is
typed as given, all types stand for the same, with one object more for the file, and the blocks are
the same in the next frames. -/
structure SameFindings (file : String) (typed : Program) (requiring direct : Checker) : Prop where
  definitions : requiring.definitions file = direct.definitions file
  modules : requiring.modules = direct.modules.insert file typed
  cache : requiring.cache = direct.cache
  next : requiring.closures.next = direct.closures.next
  known : requiring.closures.known.Pairs (fun closure closure' => closure = closure'.lifted)
    direct.closures.known
  frames : requiring.bindings.frames = direct.bindings.frames.above .empty
  inlays : requiring.inlays = direct.inlays
  heap : requiring.heap = (direct.heap.newObject (.ofList
    ((direct.definitions file).entries.map fun (name, binding) => (name, binding.ty)))).2

/-- A require of a check has led to a path: the loader was asked for it, or it was being checked. On
a fresh checker no other file can be known by then. -/
def LeadsTo (path : String) (ended : (Program × Except Stop Unit) × Checker) : Prop :=
  path ∈ ended.2.loads ∨
    ∃ place span, ended.1.2 = .error (.fault ⟨place, span, .circularRequire path⟩)

/-- The statements of a required file begin like those of its own check. -/
theorem nested_starts (main file : String) (span : Span) :
    Nested main ((atRequire main span).beginFile file) (Checker.initial.enterFile file) where
  heap := rfl
  bindings := Bindings.empty.withNewRoot_lifted
  next := rfl
  known := .nil
  cache := rfl
  file := rfl
  isOpen path := by
    show ((atRequire main span).enterFile file).isOpen path = _
    rw [isOpen_enterFile, isOpen_enterFile]
    show ((Checker.initial.enterFile main).isOpen path || _) = _
    rw [isOpen_enterFile]
    exact Bool.or_right_comm _ _ _
  callDepth := rfl
  modules := rfl
  inlays := rfl

section

variable {setup : Setup} {main name file : String} {span : Span}

/-- The file that is required by a program that does not lead back to its own file. -/
theorem requireOnly_apart (resolves : requiredFile main name setup.settings.extension = file)
    (apart : ¬LeadsTo main (checkFile setup main (requireOnly span name) .initial)) :
    file ≠ main := by
  rintro rfl
  refine apart (.inr ⟨file, span, ?_⟩)
  have here : requiredFile (atRequire file span).file name setup.settings.extension = file :=
    resolves
  have opened : (atRequire file span).isOpen file = true := by
    show (Checker.initial.enterFile file).isOpen file = true
    rw [isOpen_enterFile, decide_eq_true rfl, Bool.or_true]
  rw [checkFile_requireOnly, outcome_typeOfRequire, here, if_pos opened]
  rfl

/-- The require of another file loads it and exposes it. -/
theorem outcome_requireOnly (run : Runner)
    (resolves : requiredFile main name setup.settings.extension = file) (apart : file ≠ main) :
    (typeOfRequire setup run span name).outcome (atRequire main span) =
      (loadFile setup run span file >>= fun _ => exposeFile span name file).outcome
        (atRequire main span) := by
  have here : requiredFile (atRequire main span).file name setup.settings.extension = file :=
    resolves
  have closed : (atRequire main span).isOpen file = false := by
    show (Checker.initial.enterFile main).isOpen file = false
    rw [isOpen_enterFile, decide_eq_false apart]
    rfl
  have unknown : (atRequire main span).bindings.hasDefinitions file = false := rfl
  rw [typeOfRequire, Check.outcome_bind, Check.outcome_get]
  dsimp only
  rw [here, closed, unknown, if_neg Bool.false_ne_true, if_neg Bool.false_ne_true]

end

/-- When the statements of a required file have passed, it is exposed with the findings of its own
check if it has definitions. -/
theorem expose_nested {main file : String} {inside alone : Checker}
    (nested : Nested main inside alone) (apart : file ≠ main) (span : Span) (name : String)
    (typed : Program) :
    let after := { inside.leaveFile file main (atRequire main span).bindings.scopes with
      modules := inside.modules.insert file typed }
    let exposed := (exposeFile span name file).outcome after
    (alone.bindings.hasDefinitions file = false →
        exposed.1 = .error (.fault ⟨main, span, .noDefinitions file⟩)) ∧
      (alone.bindings.hasDefinitions file = true →
        (∃ ty, exposed.1 = .ok ty) ∧ SameFindings file typed exposed.2 alone) := by
  intro after exposed
  have known : after.definitions file = alone.definitions file := nested.definitions file
  have same : after.bindings.hasDefinitions file = alone.bindings.hasDefinitions file :=
    congrArg (fun definitions : Frame => !definitions.isEmpty) known
  refine ⟨fun none => ?_, fun some => ?_⟩
  · have stops := outcome_exposeFile_none (same.trans none) span name
    exact congrArg Prod.fst stops
  · have passes : exposed = _ := outcome_exposeFile_some (same.trans some) span name
    rw [passes]
    exact ⟨⟨_, rfl⟩, {
      definitions := (Bindings.definitions_define_other _ _ _ apart).trans known
      modules := congrArg (·.insert file typed) nested.modules
      cache := nested.cache
      next := nested.next
      known := nested.known
      frames := congrArg Bindings.frames nested.bindings
      inlays := nested.inlays
      heap := by
        rw [known, ← nested.heap]
        rfl }⟩

/-- On a fresh checker, a program that only requires a file agrees with a check of this file by
itself, unless a require leads back to the file of the program. It stops for the same reason; or the
file has no definitions, which is what it stops for; or it passes, with the same definitions, typed
program, calls and inlays, and the same blocks in the next frames. -/
theorem required_as_alone (setup : Setup) {main name file : String} (span : Span)
    {program : Program} (resolves : requiredFile main name setup.settings.extension = file)
    (served : setup.loader.load file = .ok program)
    (apart : ¬LeadsTo main (checkFile setup main (requireOnly span name) .initial)) :
    let requiring := checkFile setup main (requireOnly span name) .initial
    let direct := checkFile setup file program .initial
    (∀ stop, direct.1.2 = .error stop → requiring.1.2 = .error stop) ∧
      (direct.1.2 = .ok () → direct.2.bindings.hasDefinitions file = false →
        requiring.1.2 = .error (.fault ⟨main, span, .noDefinitions file⟩)) ∧
      (direct.1.2 = .ok () → direct.2.bindings.hasDefinitions file = true →
        requiring.1.2 = .ok () ∧ SameFindings file direct.1.1 requiring.2 direct.2) := by
  intro requiring direct
  have different := requireOnly_apart resolves apart
  have both := (nested_sound setup main).runWithin (Checker.initial.headroom setup + 1)
    (.file file) program _ _ (nested_starts main file span)
  have requiringIs : requiring = _ := checkFile_requireOnly setup main name span
  have directIs : direct = _ := checkWith_closed _ _ _ _ rfl
  rw [outcome_requireOnly _ resolves different, Check.outcome_bind, loadFile_ran served]
    at requiringIs
  generalize runWithin setup (Checker.initial.headroom setup + 1) (.file file) program
      ((atRequire main span).beginFile file) = ended,
    runWithin setup (Checker.initial.headroom setup + 1) (.file file) program
      (Checker.initial.enterFile file) = ended' at both requiringIs directIs
  rw [requiringIs, directIs]
  cases both with
  | quit own =>
    obtain ⟨place, span', rfl⟩ := own
    exact absurd (.inr ⟨place, span', congrArg (·.1.2) requiringIs⟩) apart
  | stop => exact ⟨fun _ stops => stops, nofun, nofun⟩
  | @answer typed _ inside alone nested =>
    have exposes := expose_nested nested different span name typed
    refine ⟨nofun, fun _ none => ?_, fun _ some => ?_⟩
    · exact congrArg (Except.map fun _ => ()) (exposes.1 none)
    · obtain ⟨⟨ty, passes⟩, findings⟩ := exposes.2 some
      exact ⟨congrArg (Except.map fun _ => ()) passes, { findings with }⟩

/-- A file that requires another one, and reports the type of a call of its function. -/
def library : Program :=
  [.untyped .origin (.require "base"),
   .untyped .origin (.define "f" (.untyped .origin (.block ["p"] [name "p"]))),
   .untyped .origin (.define "x" (.untyped .origin (.call [name "f", one]))),
   .untyped .origin (.inlay (name "x"))]
where
  name (text : String) : Node := .untyped .origin (.ident text)
  one : Node := .untyped .origin (.literal (.integer 1))

/-- The files of this library. -/
def librarySetup : Setup :=
  ⟨.standard, .standard, Sources.loader (.ofList [("lib.brie", library),
    ("base.brie", [.untyped .origin (.define "y" library.one)])])⟩

/-- The library is required as it is checked by itself. -/
theorem library_required_as_alone :
    requiredFile "main.brie" "lib" librarySetup.settings.extension = "lib.brie" ∧
      librarySetup.loader.load "lib.brie" = .ok library ∧
      ¬LeadsTo "main.brie"
        (checkFile librarySetup "main.brie" (requireOnly .origin "lib") .initial) ∧
      (checkFile librarySetup "main.brie" (requireOnly .origin "lib") .initial).1.2 = .ok () ∧
      SameFindings "lib.brie" (checkFile librarySetup "lib.brie" library .initial).1.1
        (checkFile librarySetup "main.brie" (requireOnly .origin "lib") .initial).2
        (checkFile librarySetup "lib.brie" library .initial).2 := by
  have resolves : requiredFile "main.brie" "lib" librarySetup.settings.extension = "lib.brie" := by
    decide +kernel
  have served : librarySetup.loader.load "lib.brie" = .ok library := rfl
  have passes : (checkFile librarySetup "main.brie" (requireOnly .origin "lib")
      .initial).1.2.isOk = true := by decide +kernel
  have loads : "main.brie" ∉ (checkFile librarySetup "main.brie" (requireOnly .origin "lib")
      .initial).2.loads := by decide +kernel
  have apart : ¬LeadsTo "main.brie"
      (checkFile librarySetup "main.brie" (requireOnly .origin "lib") .initial) := by
    rintro (asked | ⟨place, span, stops⟩)
    · exact loads asked
    · rw [stops] at passes
      exact Bool.false_ne_true passes
  have agrees := (required_as_alone librarySetup .origin resolves served apart).2.2
  have alone : (checkFile librarySetup "lib.brie" library .initial).1.2 = .ok () :=
    passes_of_isOk (by decide +kernel)
  have defined : (checkFile librarySetup "lib.brie"
      library .initial).2.bindings.hasDefinitions "lib.brie" = true := by decide +kernel
  exact ⟨resolves, served, apart, agrees alone defined⟩

end CallTyping
