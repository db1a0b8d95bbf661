/-
This file compares two ways of running the same statements of which the first may
give up early. A pass that uses the first way has the outcome that it has with the
second, or it gives up; and then the pass that did not give up has strayed, in a
sense that the rest of the pass cannot undo. It is enough that calls and loads
behave so.
-/

import CallTyping.Proofs.Conduct
import CallTyping.Proofs.Moment

namespace CallTyping

/-- The first outcome of a step is the second, or it gives up and the second one has strayed. -/
def CutStep {α : Type} (strayed : Checker → Prop) (first second : Except Stop α × Checker) :
    Prop :=
  first = second ∨ first.1 = .error .exhausted ∧ strayed second.2

/-- The first outcome of a visit is the second, or it gives up and the second one has strayed. -/
def Cut {α β : Type} (strayed : Checker → Prop) (first second : (α × Except Stop β) × Checker) :
    Prop :=
  first = second ∨ first.1.2 = .error .exhausted ∧ strayed second.2

/-- From states that are ready, the first runner gives up or runs like the second one. -/
structure Cuts (flow : Checker → Option Stop → Checker → Prop) (ready : Checker → Prop)
    (strayed : Checker → Checker → Prop) (setup : Setup) (first second : Runner) : Prop where
  kept : Flow flow setup second
  stays {before after : Checker} : flow before none after → ready before → ready after
  enters {checker : Checker} : ready checker → ready checker.enterScope
  before {start middle stop : Checker} :
    flow start none middle → strayed middle stop → strayed start stop
  after {start middle last : Checker} {stop : Option Stop} :
    strayed start middle → flow middle stop last → strayed start last
  scope {checker after : Checker} :
    strayed checker.enterScope after → strayed checker after.leaveScope
  call {checker : Checker} (span : Span) (id : ClosureId) (args : List Ty) : ready checker →
    CutStep (strayed checker) ((runClosure setup first span id args).outcome checker)
      ((runClosure setup second span id args).outcome checker)
  load {checker : Checker} (span : Span) (file : String) : ready checker →
    checker.isOpen file = false → checker.bindings.hasDefinitions file = false →
      CutStep (strayed checker) ((loadFile setup first span file).outcome checker)
        ((loadFile setup second span file).outcome checker)

/-- Two visits from one state of which the first gives up or is like the second. -/
def Beside {α β : Type} (flow : Checker → Option Stop → Checker → Prop) (ready : Checker → Prop)
    (strayed : Checker → Checker → Prop) (checker : Checker) (first second : Visit α β) : Prop :=
  Flow.Of flow second checker ∧
    (ready checker → Cut (strayed checker) (first checker) (second checker))

namespace Cuts

variable {α β γ δ : Type} {flow : Checker → Option Stop → Checker → Prop}
  {ready : Checker → Prop} {strayed : Checker → Checker → Prop} {setup : Setup}
  {first second : Runner}

/-! ### Sequences -/

theorem andThen (cuts : Cuts flow ready strayed setup first second) {checker : Checker}
    {visit visit' : Visit α β} {around : α → γ} {next next' : α → β → Visit γ δ}
    (start : Beside flow ready strayed checker visit visit')
    (rest : ∀ piece found after, Beside flow ready strayed after (next piece found)
      (next' piece found)) :
    Beside flow ready strayed checker (visit.andThen around next)
      (visit'.andThen around next') := by
  obtain ⟨flows, cut⟩ := start
  unfold Flow.Of at flows
  rcases result : visit' checker with ⟨⟨piece, stop | found⟩, after⟩
  · rw [result] at flows cut
    rw [Beside, Flow.Of, Visit.andThen_error result]
    refine ⟨flows, fun isReady => ?_⟩
    rcases cut isReady with equal | ⟨gaveUp, strays⟩
    · exact .inl (Visit.andThen_error equal)
    · exact .inr ⟨Visit.andThen_stops gaveUp, strays⟩
  · rw [result] at flows cut
    rw [Beside, Flow.Of, Visit.andThen_ok result]
    obtain ⟨flows', cut'⟩ := rest piece found after
    refine ⟨cuts.kept.trans flows flows', fun isReady => ?_⟩
    rcases cut isReady with equal | ⟨gaveUp, strays⟩
    · rw [Visit.andThen_ok equal]
      rcases cut' (cuts.stays flows isReady) with equal' | ⟨gaveUp', strays'⟩
      · exact .inl equal'
      · exact .inr ⟨gaveUp', cuts.before flows strays'⟩
    · exact .inr ⟨Visit.andThen_stops gaveUp, cuts.after strays flows'⟩

theorem within (_ : Cuts flow ready strayed setup first second) {checker : Checker}
    {visit visit' : Visit α β} (around : α → γ)
    (beside : Beside flow ready strayed checker visit visit') :
    Beside flow ready strayed checker (visit.within around) (visit'.within around) := by
  refine ⟨beside.1, fun isReady => ?_⟩
  rcases beside.2 isReady with equal | gaveUp
  · exact .inl (by rw [Visit.within, equal]; rfl)
  · exact .inr gaveUp

theorem asNode (_ : Cuts flow ready strayed setup first second) {checker : Checker}
    {visit visit' : Visit Expr Ty} (span : Span)
    (beside : Beside flow ready strayed checker visit visit') :
    Beside flow ready strayed checker (visit.asNode span) (visit'.asNode span) := by
  refine ⟨beside.1, fun isReady => ?_⟩
  rcases beside.2 isReady with equal | gaveUp
  · exact .inl (by rw [Visit.asNode, equal]; rfl)
  · exact .inr gaveUp

/-- A scope that is entered and left again. -/
theorem inScope (cuts : Cuts flow ready strayed setup first second) {checker : Checker}
    {visit visit' : Visit α β}
    (beside : Beside flow ready strayed checker.enterScope visit visit') :
    Beside flow ready strayed checker (visit.between Checker.enterScope Checker.leaveScope)
      (visit'.between Checker.enterScope Checker.leaveScope) := by
  refine ⟨cuts.kept.scope beside.1, fun isReady => ?_⟩
  rcases beside.2 (cuts.enters isReady) with equal | ⟨gaveUp, strays⟩
  · exact .inl (by rw [Visit.between, equal]; rfl)
  · exact .inr ⟨gaveUp, cuts.scope strays⟩

/-- A step that calls and loads the same way in both visits. -/
theorem step (_ : Cuts flow ready strayed setup first second) {checker : Checker} (tree : α)
    {action action' : Check β}
    (flows : flow checker (stopOf (action'.outcome checker).1) (action'.outcome checker).2)
    (cut : ready checker →
      CutStep (strayed checker) (action.outcome checker) (action'.outcome checker)) :
    Beside flow ready strayed checker (.settle tree action) (.settle tree action') := by
  refine ⟨flows, fun isReady => ?_⟩
  rcases cut isReady with equal | gaveUp
  · exact .inl (by rw [Visit.settle_eq, equal, Visit.settle_eq])
  · exact .inr gaveUp

/-- A step in which neither calls nor loads occur. -/
theorem leaf (_ : Cuts flow ready strayed setup first second) {checker : Checker} (tree : α)
    {action : Check β}
    (flows : flow checker (stopOf (action.outcome checker).1) (action.outcome checker).2) :
    Beside flow ready strayed checker (.settle tree action) (.settle tree action) :=
  ⟨flows, fun _ => .inl rfl⟩

theorem assign (cuts : Cuts flow ready strayed setup first second) {checker : Checker}
    (node : Node) {action : Check Ty}
    (ends : (Conduct.ofFlow flow).Ends checker (Conduct.ofFlow flow).Fitting
      (action.outcome checker)) :
    Beside flow ready strayed checker (Visit.assign node action) (Visit.assign node action) := by
  obtain ⟨span, slot, expr⟩ := node
  exact ⟨(cuts.kept.sound.assign ends).flow, fun _ => .inl rfl⟩

/-! ### Calls and requires -/

theorem typeOfCall (cuts : Cuts flow ready strayed setup first second) (tree : α)
    (span calleeSpan : Span) (types : List Ty) (checker : Checker) :
    Beside flow ready strayed checker
      (.settle tree (typeOfCall setup first span calleeSpan types))
      (.settle tree (typeOfCall setup second span calleeSpan types)) := by
  refine cuts.step tree (cuts.kept.sound.typeOfCall span calleeSpan fun _ _ => trivial).flow
    fun isReady => ?_
  match types with
  | [] | [ty] => exact .inl rfl
  | .function id arity bound :: arg :: args =>
    simp only [CallTyping.typeOfCall, applyFunction]
    split
    · exact .inl rfl
    · split
      · exact cuts.call span id _ isReady
      · split
        · exact cuts.call span id _ isReady
        · exact .inl rfl
  | .unit :: _ :: _ | .bool :: _ :: _ | .integer :: _ :: _ | .float :: _ :: _
  | .string :: _ :: _ | .object _ :: _ :: _ | .variant _ :: _ :: _ => exact .inl rfl

/-- A file that is loaded and then exposed. -/
theorem loadAndExpose (cuts : Cuts flow ready strayed setup first second) (span : Span)
    (name file : String) {checker : Checker} (closed : checker.isOpen file = false)
    (unknown : checker.bindings.hasDefinitions file = false) (isReady : ready checker) :
    CutStep (strayed checker)
      ((loadFile setup first span file >>= fun _ => exposeFile span name file).outcome checker)
      ((loadFile setup second span file >>= fun _ => exposeFile span name file).outcome
        checker) := by
  have flows := (cuts.kept.sound.load checker span file trivial closed unknown).flow
  rcases cuts.load span file isReady closed unknown with equal | ⟨gaveUp, strays⟩
  · exact .inl (by rw [Check.outcome_bind, Check.outcome_bind, equal])
  · refine .inr ⟨?_, ?_⟩
    · rcases result : (loadFile setup first span file).outcome checker with ⟨answer, after⟩
      rw [result] at gaveUp
      rw [Check.outcome_bind_error (result.trans (congrArg (·, after) gaveUp))]
    · rcases result : (loadFile setup second span file).outcome checker with ⟨stop | _, after⟩
      · rw [result] at strays
        rw [Check.outcome_bind_error result]
        exact strays
      · rw [result] at strays
        rw [Check.outcome_bind_ok result]
        exact cuts.after strays (cuts.kept.sound.exposeFile span name file after).flow

theorem typeOfRequire (cuts : Cuts flow ready strayed setup first second) (tree : α)
    (span : Span) (name : String) (checker : Checker) :
    Beside flow ready strayed checker (.settle tree (typeOfRequire setup first span name))
      (.settle tree (typeOfRequire setup second span name)) := by
  refine cuts.step tree (cuts.kept.sound.typeOfRequire span name checker).flow fun isReady => ?_
  unfold CallTyping.typeOfRequire
  rw [Check.outcome_bind, Check.outcome_get, Check.outcome_bind, Check.outcome_get]
  dsimp only
  split
  · exact .inl rfl
  next closed =>
    split
    · exact .inl rfl
    next unknown =>
      exact cuts.loadAndExpose span name _ (by simpa using closed) (by simpa using unknown)
        isReady

/-! ### The pass over a tree -/

mutual

theorem visitNode (cuts : Cuts flow ready strayed setup first second) (toplevel : Bool)
    (checker : Checker) : (node : Node) → Beside flow ready strayed checker
      (visitNode setup first toplevel node) (visitNode setup second toplevel node)
  | .mk span slot expr => by
    unfold CallTyping.visitNode
    refine cuts.andThen (cuts.leaf () (cuts.kept.sound.recorded _ checker).flow) fun _ _ after => ?_
    cases slot with
    | some ty => exact cuts.leaf _ (cuts.kept.fault after span _)
    | none => exact cuts.asNode span (visitExpr cuts toplevel span after expr)

theorem visitExpr (cuts : Cuts flow ready strayed setup first second) (toplevel : Bool)
    (span : Span) (checker : Checker) : (expr : Expr) → Beside flow ready strayed checker
      (visitExpr setup first toplevel span expr) (visitExpr setup second toplevel span expr)
  | .ident name => by
    simp only [CallTyping.visitExpr]
    exact cuts.leaf _ (cuts.kept.sound.typeOfName span name checker).flow
  | .literal value => by
    simp only [CallTyping.visitExpr]
    exact cuts.leaf _ (cuts.kept.still checker)
  | .call children => by
    simp only [CallTyping.visitExpr]
    exact cuts.andThen (visitNodes cuts false checker children) fun _ types after =>
      cuts.typeOfCall _ span _ types after
  | .block params body => by
    simp only [CallTyping.visitExpr]
    exact cuts.leaf _ (cuts.kept.sound.typeOfBlock span params body checker).flow
  | .ifThen condition body => by
    simp only [CallTyping.visitExpr]
    refine cuts.andThen (visitNode cuts false checker condition) fun condition ty after => ?_
    refine cuts.andThen (visitNodes cuts false after body) fun _ _ later => ?_
    exact cuts.leaf _ (cuts.kept.answered (cuts.kept.sound.expectBool condition.span ty later).flow)
  | .ifThenElse condition body alternative => by
    simp only [CallTyping.visitExpr]
    refine cuts.andThen (visitNode cuts false checker condition) fun _ ty after => ?_
    refine cuts.andThen (visitNodes cuts false after body) fun _ types later => ?_
    refine cuts.andThen (visitNodes cuts false later alternative) fun _ _ last => ?_
    exact cuts.leaf _ (cuts.kept.sound.typeOfConditional span _ ty trivial trivial).flow
  | .whileLoop condition body => by
    simp only [CallTyping.visitExpr]
    refine cuts.andThen (visitNode cuts false checker condition) fun _ _ after => ?_
    exact cuts.andThen (visitNodes cuts false after body) fun _ _ later =>
      cuts.leaf _ (cuts.kept.still later)
  | .caseOf scrutinee arms => by
    simp only [CallTyping.visitExpr]
    refine cuts.andThen (visitNode cuts false checker scrutinee) fun scrutinee ty after => ?_
    refine cuts.andThen
      (cuts.leaf () (cuts.kept.sound.chooseArms _ scrutinee.span arms trivial).flow)
      fun _ choices later => ?_
    exact cuts.andThen (visitArms cuts span later arms choices none) fun _ _ _ =>
      cuts.leaf _ (cuts.kept.sound.typeOfMatch span ty fun _ _ => trivial).flow
  | .dot target field => by
    simp only [CallTyping.visitExpr]
    exact cuts.andThen (visitNode cuts false checker target) fun _ _ _ =>
      cuts.leaf _ (cuts.kept.sound.typeOfField _ field trivial).flow
  | .update target value => by
    simp only [CallTyping.visitExpr]
    exact cuts.andThen (visitNode cuts false checker value) fun value ty after =>
      cuts.within _ (visitTarget cuts value.span ty after target)
  | .assertion value described => by
    simp only [CallTyping.visitExpr]
    refine cuts.andThen (visitNode cuts false checker value) fun value ty after => ?_
    exact cuts.leaf _ (cuts.kept.answered
      (cuts.kept.sound.assertType setup.annotations value.span ty after described).flow)
  | .object fields => by
    simp only [CallTyping.visitExpr]
    exact cuts.andThen (visitFields cuts checker fields) fun _ _ _ =>
      cuts.leaf _ (cuts.kept.sound.newObject fun _ _ => trivial).flow
  | .variant tag args => by
    simp only [CallTyping.visitExpr]
    exact cuts.andThen (visitNodes cuts false checker args) fun _ _ _ =>
      cuts.leaf _ (cuts.kept.sound.newVariant tag fun _ _ => trivial).flow
  | .define name value => by
    simp only [CallTyping.visitExpr]
    exact cuts.andThen (visitNode cuts false checker value) fun _ _ _ =>
      cuts.leaf _ (cuts.kept.sound.defineName toplevel span name trivial).flow
  | .require name => by
    simp only [CallTyping.visitExpr]
    exact cuts.typeOfRequire _ span name checker
  | .inlay inner => by
    simp only [CallTyping.visitExpr]
    exact cuts.andThen (visitNode cuts false checker inner) fun _ _ _ =>
      cuts.leaf _ (cuts.kept.sound.noteInlay span trivial).flow

theorem visitTarget (cuts : Cuts flow ready strayed setup first second) (valueSpan : Span)
    (new : Ty) (checker : Checker) : (target : Node) → Beside flow ready strayed checker
      (visitTarget setup first valueSpan new target)
      (visitTarget setup second valueSpan new target)
  | .mk span slot (.ident name) => by
    simp only [CallTyping.visitTarget]
    exact cuts.assign _ (cuts.kept.sound.updateVariable span valueSpan name trivial)
  | .mk span slot (.dot base field) => by
    simp only [CallTyping.visitTarget]
    split
    · exact cuts.andThen (visitNode cuts false checker base) fun base _ _ =>
        cuts.assign _ (cuts.kept.sound.updateField base.span valueSpan field trivial trivial)
    · exact cuts.leaf _ (cuts.kept.fault checker span _)
  | .mk span _ (.literal _) | .mk span _ (.call _) | .mk span _ (.block _ _)
  | .mk span _ (.ifThen _ _) | .mk span _ (.ifThenElse _ _ _) | .mk span _ (.whileLoop _ _)
  | .mk span _ (.caseOf _ _) | .mk span _ (.update _ _) | .mk span _ (.assertion _ _)
  | .mk span _ (.object _) | .mk span _ (.variant _ _) | .mk span _ (.define _ _)
  | .mk span _ (.require _) | .mk span _ (.inlay _) =>
    cuts.leaf _ (cuts.kept.fault checker span _)

theorem visitNodes (cuts : Cuts flow ready strayed setup first second) (toplevel : Bool)
    (checker : Checker) : (nodes : List Node) → Beside flow ready strayed checker
      (visitNodes setup first toplevel nodes) (visitNodes setup second toplevel nodes)
  | [] => by
    simp only [CallTyping.visitNodes]
    exact cuts.leaf _ (cuts.kept.still _)
  | node :: rest => by
    simp only [CallTyping.visitNodes]
    refine cuts.andThen (visitNode cuts toplevel checker node) fun _ _ after => ?_
    exact cuts.andThen (visitNodes cuts toplevel after rest) fun _ _ _ =>
      cuts.leaf _ (cuts.kept.still _)

theorem visitFields (cuts : Cuts flow ready strayed setup first second) (checker : Checker) :
    (fields : List Field) → Beside flow ready strayed checker
      (visitFields setup first fields) (visitFields setup second fields)
  | [] => by
    simp only [CallTyping.visitFields]
    exact cuts.leaf _ (cuts.kept.still _)
  | .mk name value :: rest => by
    simp only [CallTyping.visitFields]
    refine cuts.andThen (visitNode cuts false checker value) fun _ _ after => ?_
    exact cuts.andThen (visitFields cuts after rest) fun _ _ _ =>
      cuts.leaf _ (cuts.kept.still _)

theorem visitArms (cuts : Cuts flow ready strayed setup first second) (span : Span)
    (checker : Checker) : (arms : List Arm) → (choices : List (Option (List Ty))) →
    (previous : Option Ty) → Beside flow ready strayed checker
      (visitArms setup first span arms choices previous)
      (visitArms setup second span arms choices previous)
  | arm :: rest, some expected :: choices, previous => by
    simp only [CallTyping.visitArms]
    refine cuts.andThen (visitArm cuts checker expected arm) fun _ ty after => ?_
    refine cuts.andThen
      (cuts.leaf () (cuts.kept.sound.joinArm span (fun _ _ => trivial) trivial).flow)
      fun _ joined later => ?_
    exact cuts.within _ (visitArms cuts span later rest choices (some joined))
  | arm :: rest, none :: choices, previous => by
    simp only [CallTyping.visitArms]
    exact cuts.within _ (visitArms cuts span checker rest choices previous)
  | [], _, previous | _ :: _, [], previous => by
    unfold CallTyping.visitArms
    exact cuts.leaf _ (cuts.kept.still _)

theorem visitArm (cuts : Cuts flow ready strayed setup first second) (checker : Checker)
    (expected : List Ty) : (arm : Arm) → Beside flow ready strayed checker
      (visitArm setup first expected arm) (visitArm setup second expected arm)
  | .mk span tag args body => by
    simp only [CallTyping.visitArm]
    refine cuts.inScope ?_
    refine cuts.andThen ⟨(cuts.kept.sound.bindPattern args expected _ fun _ _ => trivial).flow,
      fun _ => .inl rfl⟩ fun _ _ after => ?_
    exact cuts.andThen (visitNodes cuts false after body) fun _ _ _ =>
      cuts.leaf _ (cuts.kept.still _)

end

theorem runStatements (cuts : Cuts flow ready strayed setup first second) (occasion : Occasion)
    (program : Program) (checker : Checker) (isReady : ready checker) :
    Cut (strayed checker) (runStatements setup first occasion program checker)
      (runStatements setup second occasion program checker) :=
  (cuts.visitNodes occasion.isFile checker program).2 isReady

end Cuts

/-! ### From runs to calls, loads and checks -/

section

variable {setup : Setup} {first second : Runner} {strays : Checker → Prop}

/-- A call is cut where the run of its body is. -/
theorem runClosure_cut {span : Span} {id : ClosureId} {args : List Ty} {checker : Checker}
    (cut : checker.cache.recalled? checker.heap id args = none →
      checker.callDepth < setup.settings.depthLimit →
      ∀ closure, checker.closures.get? id = some closure →
        Cut (fun _ => strays ((runClosure setup second span id args).outcome checker).2)
          (first (.body id args) closure.body (checker.beginBody id closure args))
          (second (.body id args) closure.body (checker.beginBody id closure args))) :
    CutStep strays ((runClosure setup first span id args).outcome checker)
      ((runClosure setup second span id args).outcome checker) := by
  by_cases gaveUp : ∃ closure, checker.cache.recalled? checker.heap id args = none ∧
      checker.callDepth < setup.settings.depthLimit ∧
      checker.closures.get? id = some closure ∧
      first (.body id args) closure.body (checker.beginBody id closure args) ≠
        second (.body id args) closure.body (checker.beginBody id closure args)
  · obtain ⟨closure, new, shallow, present, different⟩ := gaveUp
    obtain ⟨stops, strayed⟩ := (cut new shallow closure present).resolve_left different
    exact .inr ⟨runClosure_stops span new shallow present stops, strayed⟩
  · refine .inl (runClosure_agrees setup span fun new shallow closure present => ?_)
    exact Classical.byContradiction fun different =>
      gaveUp ⟨closure, new, shallow, present, different⟩

/-- A load is cut where the run of its file is. -/
theorem loadFile_cut {span : Span} {file : String} {checker : Checker}
    (cut : ∀ program, setup.loader.load file = .ok program →
      Cut (fun _ => strays ((loadFile setup second span file).outcome checker).2)
        (first (.file file) program (checker.beginFile file))
        (second (.file file) program (checker.beginFile file))) :
    CutStep strays ((loadFile setup first span file).outcome checker)
      ((loadFile setup second span file).outcome checker) := by
  by_cases gaveUp : ∃ program, setup.loader.load file = .ok program ∧
      first (.file file) program (checker.beginFile file) ≠
        second (.file file) program (checker.beginFile file)
  · obtain ⟨program, loaded, different⟩ := gaveUp
    obtain ⟨stops, strayed⟩ := (cut program loaded).resolve_left different
    exact .inr ⟨loadFile_stops span loaded stops, strayed⟩
  · refine .inl (loadFile_agrees setup span fun program loaded => ?_)
    exact Classical.byContradiction fun different => gaveUp ⟨program, loaded, different⟩

/-- A check is cut where the run of its file is. -/
theorem checkWith_cut {file : String} {program : Program} {checker : Checker}
    (cut : checker.isOpen file = false →
      Cut (fun _ => strays (checkWith second file program checker).2)
        (first (.file file) program (checker.enterFile file))
        (second (.file file) program (checker.enterFile file))) :
    Cut strays (checkWith first file program checker) (checkWith second file program checker) := by
  cases opened : checker.isOpen file with
  | true =>
    rw [checkWith_open _ _ _ _ opened, checkWith_open _ _ _ _ opened]
    exact .inl rfl
  | false =>
    rw [checkWith_closed first _ _ _ opened]
    rcases cut opened with equal | ⟨stops, strayed⟩
    · rw [equal, ← checkWith_closed second _ _ _ opened]
      exact .inl rfl
    · refine .inr ⟨?_, strayed⟩
      dsimp only
      rw [stops]
      rfl

end

/-! ### Runs that may give up anywhere -/

/-- Where nothing is asked of the pass that goes on, it is enough to compare the runs. -/
theorem Cuts.ofRuns (setup : Setup) {first second : Runner}
    (cut : ∀ occasion program checker,
      Cut (fun _ => True) (first occasion program checker) (second occasion program checker)) :
    Cuts (fun _ _ _ => True) (fun _ => True) (fun _ _ => True) setup first second where
  kept := by constructor <;> intros <;> trivial
  stays _ _ := trivial
  enters _ := trivial
  before _ _ := trivial
  after _ _ := trivial
  scope _ := trivial
  call _ _ _ _ := runClosure_cut fun _ _ _ _ => cut _ _ _
  load _ _ _ _ _ := loadFile_cut fun _ _ => cut _ _ _

variable (setup : Setup) (allowed : Moment → Prop) [DecidablePred allowed]

/-- Watching a run changes nothing unless it stops the run. -/
theorem runWatched_cut (levels : Nat) (stack : List Occasion) (occasion : Occasion)
    (program : Program) (checker : Checker) :
    Cut (fun _ => True) (runWatched setup allowed levels stack occasion program checker)
      (runWithin setup levels occasion program checker) := by
  induction levels generalizing stack occasion program checker with
  | zero => exact .inl rfl
  | succ levels inductionHypothesis =>
    have inner := (Cuts.ofRuns setup (inductionHypothesis (occasion :: stack))).runStatements
      occasion program checker trivial
    have ends := runWatched_ends setup allowed levels stack occasion program checker
    generalize runWatched setup allowed (levels + 1) stack occasion program checker = outcome
      at ends ⊢
    cases ends with
    | passed => exact inner
    | refusedLeaving | refusedEntering => exact .inr ⟨rfl, trivial⟩

/-- A check whose moments are all allowed comes to the same under watch. -/
theorem checkWatched_eq {request : Request} {checker : Checker}
    (always : Always allowed request checker) :
    checkWatched allowed request checker =
      checkFile request.setup request.file request.program checker := by
  have cut : Cut (fun _ => True) (checkWatched allowed request checker)
      (checkFile request.setup request.file request.program checker) :=
    checkWith_cut fun _ => runWatched_cut request.setup allowed _ [] _ _ _
  exact cut.resolve_right fun gaveUp => always gaveUp.1

end CallTyping
