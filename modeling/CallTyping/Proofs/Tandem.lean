/-
This file follows two checks of the same statements beside each other. They may have
different setups and begin in different states. What is to be said about them is in
which states both go on, and for which reasons the first may stop by itself. It is
enough that every single action leads from such states to such states, and that calls
and loads begin and end in them: then both runs answer alike and give the trees the
same types, unless the first one has stopped by itself.
-/

import CallTyping.Proofs.Conduct

namespace CallTyping

/-- How two checks go beside each other. -/
structure Tandem where
  /-- The states in which both go on. -/
  together : Checker → Checker → Prop
  /-- The states in which both have stopped for the same reason. -/
  stopped : Checker → Checker → Prop
  /-- The reasons for which the first one may stop by itself. -/
  quits : Stop → Prop

namespace Tandem

variable {α β γ δ : Type}

/-- The first visit has stopped by itself, or the second one has come to the same. -/
inductive Ends (tandem : Tandem) :
    (α × Except Stop β) × Checker → (α × Except Stop β) × Checker → Prop where
  | quit {piece : α} {stop : Stop} {after : Checker} {second : (α × Except Stop β) × Checker}
      (own : tandem.quits stop) : Ends tandem ((piece, .error stop), after) second
  | answer {piece : α} {found : β} {after after' : Checker}
      (together : tandem.together after after') :
      Ends tandem ((piece, .ok found), after) ((piece, .ok found), after')
  | stop {piece : α} {stop : Stop} {after after' : Checker}
      (stopped : tandem.stopped after after') :
      Ends tandem ((piece, .error stop), after) ((piece, .error stop), after')

/-- A fault is told in the current file. -/
theorem Ends.fault {tandem : Tandem} {file file' : String} (same : file' = file) (piece : α)
    (span : Span) (fault : Fault) {after after' : Checker}
    (stopped : tandem.stopped after after') :
    tandem.Ends (β := β) ((piece, .error (.fault ⟨file, span, fault⟩)), after)
      ((piece, .error (.fault ⟨file', span, fault⟩)), after') := by
  rw [same]
  exact .stop stopped

/-- From states in which both go on, two visits come to the same. -/
def Along (tandem : Tandem) (first second : Visit α β) : Prop :=
  ∀ checker checker', tandem.together checker checker' →
    tandem.Ends (first checker) (second checker')

/-- From states in which both go on, two steps come to the same. -/
def Steps (tandem : Tandem) (first second : Check β) : Prop :=
  tandem.Along (.settle () first) (.settle () second)

/-- From states in which both go on, two runs of the same statements come to the same. -/
def Runs (tandem : Tandem) (run run' : Runner) : Prop :=
  ∀ occasion program, tandem.Along (run occasion program) (run' occasion program)

/-- What is read is the same, and single actions lead on. -/
structure Steady (tandem : Tandem) : Prop where
  /-- What is read. -/
  file {checker checker' : Checker} : tandem.together checker checker' →
    checker'.file = checker.file
  heap {checker checker' : Checker} : tandem.together checker checker' →
    checker'.heap = checker.heap
  lookup {checker checker' : Checker} (name : String) : tandem.together checker checker' →
    checker'.lookup name = checker.lookup name
  definitions {checker checker' : Checker} (file : String) : tandem.together checker checker' →
    checker'.definitions file = checker.definitions file
  next {checker checker' : Checker} : tandem.together checker checker' →
    checker'.closures.next = checker.closures.next
  /-- Single actions. -/
  halts {checker checker' : Checker} : tandem.together checker checker' →
    tandem.stopped checker checker'
  record {checker checker' : Checker} (event : Event) : tandem.together checker checker' →
    tandem.together { checker with log := checker.log.push event }
      { checker' with log := checker'.log.push event }
  inlay {checker checker' : Checker} (span : Span) (ty : Ty) : tandem.together checker checker' →
    tandem.together { checker with inlays := checker.inlays.push ⟨checker.file, span, ty⟩ }
      { checker' with inlays := checker'.inlays.push ⟨checker'.file, span, ty⟩ }
  withHeap {checker checker' : Checker} (heap : Heap) : tandem.together checker checker' →
    tandem.together { checker with heap } { checker' with heap }
  bind {checker checker' : Checker} (name : String) (binding : Binding) :
    tandem.together checker checker' →
      tandem.together { checker with bindings := checker.bindings.bind name binding }
        { checker' with bindings := checker'.bindings.bind name binding }
  define {checker checker' : Checker} (name : String) (binding : Binding) :
    tandem.together checker checker' →
      tandem.together
        { checker with bindings := checker.bindings.define checker.file name binding }
        { checker' with bindings := checker'.bindings.define checker'.file name binding }
  block {checker checker' : Checker} (params : List String) (body : Program) (span : Span) :
    tandem.together checker checker' →
      tandem.together
        (Conduct.remembered checker ⟨params, body, span, checker.file, checker.bindings.scopes⟩)
        (Conduct.remembered checker'
          ⟨params, body, span, checker'.file, checker'.bindings.scopes⟩)

/-- All that has to be known of two checks that go beside each other. -/
structure Sound (tandem : Tandem) (setup setup' : Setup) : Prop extends Steady tandem where
  annotations : setup'.annotations = setup.annotations
  loader : setup'.loader = setup.loader
  extension : setup'.settings.extension = setup.settings.extension
  arm (variant : VariantId) (arm : Arm) :
    tandem.Steps (selectArm setup.settings.unknownArms variant arm)
      (selectArm setup'.settings.unknownArms variant arm)
  /-- Scopes of arms. -/
  enterScope {checker checker' : Checker} : tandem.together checker checker' →
    tandem.together checker.enterScope checker'.enterScope
  leaveScope {checker checker' : Checker} : tandem.together checker checker' →
    tandem.together checker.leaveScope checker'.leaveScope
  stopScope {checker checker' : Checker} : tandem.stopped checker checker' →
    tandem.stopped checker.leaveScope checker'.leaveScope
  /-- Calls. -/
  recalled {checker checker' : Checker} (id : ClosureId) (args : List Ty) :
    tandem.together checker checker' →
      checker'.cache.recalled? checker'.heap id args =
        checker.cache.recalled? checker.heap id args
  refused {checker checker' : Checker} (id : ClosureId) (args : List Ty) :
    tandem.together checker checker' →
      tandem.stopped ((checker.markCall id args).abandonCall id args)
        ((checker'.markCall id args).abandonCall id args)
  deep {checker checker' : Checker} (span : Span) : tandem.together checker checker' →
    setup.settings.depthLimit ≤ checker.callDepth →
      tandem.quits (.fault
          ⟨checker.file, span, .specializationTooDeep setup.settings.depthLimit⟩) ∨
        setup'.settings.depthLimit = setup.settings.depthLimit ∧
          setup'.settings.depthLimit ≤ checker'.callDepth
  shallow {checker checker' : Checker} : tandem.together checker checker' →
    checker.callDepth < setup.settings.depthLimit →
      checker'.callDepth < setup'.settings.depthLimit
  beginBody {checker checker' : Checker} (id : ClosureId) : tandem.together checker checker' →
    Option.Rel (fun closure closure' => closure'.body = closure.body ∧ ∀ args,
        tandem.together (checker.beginBody id closure args) (checker'.beginBody id closure' args))
      (checker.closures.get? id) (checker'.closures.get? id)
  endBody {checker checker' after after' : Checker} (id : ClosureId) (args : List Ty)
    (result : Ty) (body : Program) : tandem.together checker checker' →
      tandem.together after after' →
        tandem.together
          ((after.leaveBody checker.file checker.bindings.scopes).finishCall id args result body)
          ((after'.leaveBody checker'.file checker'.bindings.scopes).finishCall id args result body)
  stopBody {checker checker' after after' : Checker} (id : ClosureId) (args : List Ty) :
    tandem.together checker checker' → tandem.stopped after after' →
      tandem.stopped ((after.leaveBody checker.file checker.bindings.scopes).abandonCall id args)
        ((after'.leaveBody checker'.file checker'.bindings.scopes).abandonCall id args)
  /-- Requires. -/
  isOpen {checker checker' : Checker} (span : Span) (file : String) :
    tandem.together checker checker' →
      tandem.quits (.fault ⟨checker.file, span, .circularRequire file⟩) ∧
          checker.isOpen file = true ∨
        checker'.isOpen file = checker.isOpen file
  missing {checker checker' : Checker} (file : String) : tandem.together checker checker' →
    checker.isOpen file = false → checker.bindings.hasDefinitions file = false →
      tandem.stopped { checker with loads := checker.loads.push file }
        { checker' with loads := checker'.loads.push file }
  beginFile {checker checker' : Checker} (file : String) : tandem.together checker checker' →
    checker.isOpen file = false → checker.bindings.hasDefinitions file = false →
      tandem.together (checker.beginFile file) (checker'.beginFile file)
  stopFile {checker checker' after after' : Checker} (file : String) :
    tandem.together checker checker' → checker.isOpen file = false →
      tandem.stopped after after' →
        tandem.stopped (after.leaveFile file checker.file checker.bindings.scopes)
          (after'.leaveFile file checker'.file checker'.bindings.scopes)
  /-- A file that has been loaded is exposed. -/
  expose {checker checker' after after' : Checker} (span : Span) (name file : String)
    (typed : Program) : tandem.together checker checker' → checker.isOpen file = false →
      tandem.together after after' →
        tandem.Ends
          (Visit.settle () (exposeFile span name file)
            { after.leaveFile file checker.file checker.bindings.scopes with
              modules := after.modules.insert file typed })
          (Visit.settle () (exposeFile span name file)
            { after'.leaveFile file checker'.file checker'.bindings.scopes with
              modules := after'.modules.insert file typed })

/-! ### Sequences -/

section

variable {tandem : Tandem}

theorem Along.andThen {visit visit' : Visit α β} {around : α → γ} {next next' : α → β → Visit γ δ}
    (start : tandem.Along visit visit')
    (rest : ∀ piece found, tandem.Along (next piece found) (next' piece found)) :
    tandem.Along (visit.andThen around next) (visit'.andThen around next') := by
  intro checker checker' together
  have both := start checker checker' together
  unfold Visit.andThen
  generalize visit checker = ended, visit' checker' = ended' at both ⊢
  cases both with
  | quit own => exact .quit own
  | answer together => exact rest _ _ _ _ together
  | stop stopped => exact .stop stopped

theorem Along.within {visit visit' : Visit α β} (along : tandem.Along visit visit')
    (around : α → γ) : tandem.Along (visit.within around) (visit'.within around) := by
  intro checker checker' together
  have both := along checker checker' together
  unfold Visit.within
  generalize visit checker = ended, visit' checker' = ended' at both ⊢
  cases both with
  | quit own => exact .quit own
  | answer together => exact .answer together
  | stop stopped => exact .stop stopped

theorem Along.asNode {visit visit' : Visit Expr Ty} (along : tandem.Along visit visit')
    (span : Span) : tandem.Along (visit.asNode span) (visit'.asNode span) := by
  intro checker checker' together
  have both := along checker checker' together
  unfold Visit.asNode
  generalize visit checker = ended, visit' checker' = ended' at both ⊢
  cases both with
  | quit own => exact .quit own
  | answer together => exact .answer together
  | stop stopped => exact .stop stopped

/-- Two steps come to the same, whatever tree they leave as it is. -/
theorem Steps.settle {step step' : Check β} (steps : tandem.Steps step step') (tree : α) :
    tandem.Along (.settle tree step) (.settle tree step') := by
  intro checker checker' together
  have both := steps checker checker' together
  rw [Visit.settle_eq, Visit.settle_eq] at both ⊢
  generalize step.outcome checker = ended, step'.outcome checker' = ended' at both ⊢
  obtain ⟨answer, after⟩ := ended
  obtain ⟨answer', after'⟩ := ended'
  cases both with
  | quit own => exact .quit own
  | answer together => exact .answer together
  | stop stopped => exact .stop stopped

theorem Steps.bind {step step' : Check β} {next next' : β → Check γ}
    (start : tandem.Steps step step')
    (rest : ∀ answer, tandem.Steps (next answer) (next' answer)) :
    tandem.Steps (step >>= next) (step' >>= next') := by
  unfold Steps
  rw [Visit.settle_bind, Visit.settle_bind]
  exact Along.andThen start fun _ answer => rest answer

theorem Steps.answered (answer : β) : tandem.Steps (pure answer) (pure answer) :=
  fun _ _ together => .answer together

theorem Steps.read {next next' : Checker → Check β}
    (rest : ∀ checker checker', tandem.together checker checker' →
      tandem.Steps (next checker) (next' checker')) :
    tandem.Steps (get >>= next) (get >>= next') :=
  fun checker checker' together => rest checker checker' together checker checker' together

theorem Steps.changed {change change' : Checker → Checker}
    (keeps : ∀ checker checker', tandem.together checker checker' →
      tandem.together (change checker) (change' checker')) :
    tandem.Steps (modify change : Check Unit) (modify change') :=
  fun checker checker' together => .answer (keeps checker checker' together)

end

/-! ### Rules that do not look into the tree -/

namespace Steady

variable {tandem : Tandem}

theorem failed (steady : tandem.Steady) (span : Span) (fault : Fault) :
    tandem.Steps (fail span fault : Check β) (fail span fault) :=
  fun _ _ together => .fault (steady.file together) () span fault (steady.halts together)

theorem exhausted (steady : tandem.Steady) :
    tandem.Steps (throw .exhausted : Check β) (throw .exhausted) :=
  fun _ _ together => .stop (steady.halts together)

theorem recorded (steady : tandem.Steady) (event : Event) :
    tandem.Steps (CallTyping.record event) (CallTyping.record event) :=
  .changed fun _ _ => steady.record event

theorem grown (steady : tandem.Steady) (heap : Heap) :
    tandem.Steps (modify fun checker => { checker with heap } : Check Unit)
      (modify fun checker => { checker with heap }) :=
  .changed fun _ _ => steady.withHeap heap

theorem typeOfName (steady : tandem.Steady) (span : Span) (name : String) :
    tandem.Steps (typeOfName span name) (typeOfName span name) :=
  .read fun checker checker' together => by
    rw [steady.lookup name together]
    cases checker.lookup name with
    | none => exact steady.failed _ _
    | some ty => exact .answered ty

theorem defineName (steady : tandem.Steady) (toplevel : Bool) (span : Span)
    (name : String) (ty : Ty) :
    tandem.Steps (defineName toplevel span name ty) (defineName toplevel span name ty) := by
  intro checker checker' together
  cases toplevel with
  | true => exact .answer (steady.define name ⟨ty, span⟩ together)
  | false => exact .answer (steady.bind name ⟨ty, span⟩ together)

theorem noteInlay (steady : tandem.Steady) (span : Span) (ty : Ty) :
    tandem.Steps (noteInlay span ty) (noteInlay span ty) :=
  .read fun checker checker' together => by
    rw [steady.file together, steady.heap together]
    refine (steady.recorded _).bind fun _ => ?_
    exact Steps.bind (.changed fun _ _ => steady.inlay span ty) fun _ => .answered Ty.unit

theorem joinTypes (steady : tandem.Steady) (reason : String) (span : Span)
    (expected found : Ty) :
    tandem.Steps (joinTypes reason span expected found) (joinTypes reason span expected found) :=
  .read fun checker checker' together => by
    rw [steady.heap together]
    cases checker.heap.join expected found with
    | none => exact steady.failed _ _
    | some joined => exact (steady.grown joined.2).bind fun _ => .answered joined.1

theorem expectBool (steady : tandem.Steady) (span : Span) (ty : Ty) :
    tandem.Steps (expectBool span ty) (expectBool span ty) := by
  unfold CallTyping.expectBool
  cases ty.isBool with
  | true => exact .answered ()
  | false => exact steady.failed _ _

theorem typeOfConditional (steady : tandem.Steady) (span conditionSpan : Span)
    (condition body alternative : Ty) :
    tandem.Steps (typeOfConditional span conditionSpan condition body alternative)
      (typeOfConditional span conditionSpan condition body alternative) :=
  (steady.expectBool conditionSpan condition).bind fun _ => steady.joinTypes _ span body alternative

theorem newObject (steady : tandem.Steady) (fields : List (String × Ty)) :
    tandem.Steps (newObject fields) (newObject fields) :=
  .read fun checker checker' together => by
    rw [steady.heap together]
    exact (steady.grown _).bind fun _ => .answered _

theorem newVariant (steady : tandem.Steady) (tag : String) (args : List Ty) :
    tandem.Steps (newVariant tag args) (newVariant tag args) :=
  .read fun checker checker' together => by
    rw [steady.heap together]
    exact (steady.grown _).bind fun _ => .answered _

theorem expectObject (steady : tandem.Steady) (span : Span) (ty : Ty) :
    tandem.Steps (expectObject span ty) (expectObject span ty) := by
  cases ty with
  | object id => exact .answered id
  | _ => exact steady.failed _ _

theorem expectVariant (steady : tandem.Steady) (span : Span) (ty : Ty) :
    tandem.Steps (expectVariant span ty) (expectVariant span ty) := by
  cases ty with
  | variant id => exact .answered id
  | _ => exact steady.failed _ _

theorem typeOfField (steady : tandem.Steady) (span : Span) (ty : Ty)
    (field : String) : tandem.Steps (typeOfField span ty field) (typeOfField span ty field) :=
  (steady.expectObject span ty).bind fun object => .read fun checker checker' together => by
    rw [steady.heap together]
    cases checker.heap.field? object field with
    | none => exact steady.failed _ _
    | some found => exact .answered found

theorem updateVariable (steady : tandem.Steady) (span valueSpan : Span)
    (name : String) (new : Ty) :
    tandem.Steps (updateVariable span valueSpan name new)
      (updateVariable span valueSpan name new) := by
  intro checker checker' together
  rw [Visit.settle_eq, Visit.settle_eq, Check.outcome_updateVariable,
    Check.outcome_updateVariable, ← Visit.settle_eq (), ← Visit.settle_eq ()]
  exact (steady.typeOfName span name).bind (fun old => steady.joinTypes _ valueSpan old new)
    checker checker' together

theorem updateField (steady : tandem.Steady) (objectSpan valueSpan : Span) (ty : Ty)
    (field : String) (new : Ty) :
    tandem.Steps (updateField objectSpan valueSpan ty field new)
      (updateField objectSpan valueSpan ty field new) := by
  intro checker checker' together
  rw [Visit.settle_eq, Visit.settle_eq, Check.outcome_updateField, Check.outcome_updateField,
    ← Visit.settle_eq (), ← Visit.settle_eq (), steady.heap together]
  refine (steady.expectObject objectSpan ty).bind (fun object => ?_) checker checker' together
  cases checker.heap.field? object field with
  | some old => exact steady.joinTypes _ valueSpan old new
  | none =>
    refine Steps.bind (.changed fun _ _ later => ?_) fun _ => .answered new
    rw [steady.heap later]
    exact steady.withHeap _ later

theorem expectKind (steady : tandem.Steady) (span : Span) (expected : Kind) (ty : Ty) :
    tandem.Steps (expectKind span expected ty) (expectKind span expected ty) := by
  unfold CallTyping.expectKind
  by_cases same : ty.kind = expected
  · rw [if_pos same]
    exact .answered ()
  · rw [if_neg same]
    exact steady.failed _ _

theorem annotatedField (steady : tandem.Steady) (span : Span) (ty : Ty)
    (field : String) :
    tandem.Steps (annotatedField span ty field) (annotatedField span ty field) := by
  cases ty with
  | object id =>
    refine .read fun checker checker' together => ?_
    rw [steady.heap together]
    cases checker.heap.field? id field with
    | none => exact steady.failed _ _
    | some found => exact .answered found
  | _ => exact steady.failed _ _

mutual

theorem assertType (steady : tandem.Steady) (annotations : Annotations) (span : Span)
    (ty : Ty) : (described : Node) →
      tandem.Steps (assertType annotations span ty described)
        (assertType annotations span ty described)
  | .mk _ _ (.object fields) => by
    rw [CallTyping.assertType]
    exact (steady.expectKind span .object ty).bind fun _ =>
      assertFields steady annotations span ty fields
  | .mk place _ (.ident name) => by
    rw [CallTyping.assertType]
    cases annotations name with
    | none => exact steady.failed _ _
    | some expected => exact steady.expectKind span expected ty
  | .mk place _ (.literal _) | .mk place _ (.call _) | .mk place _ (.block _ _)
  | .mk place _ (.ifThen _ _) | .mk place _ (.ifThenElse _ _ _) | .mk place _ (.whileLoop _ _)
  | .mk place _ (.caseOf _ _) | .mk place _ (.dot _ _) | .mk place _ (.update _ _)
  | .mk place _ (.assertion _ _) | .mk place _ (.variant _ _) | .mk place _ (.define _ _)
  | .mk place _ (.require _) | .mk place _ (.inlay _) => steady.failed place .malformedAssertion

theorem assertFields (steady : tandem.Steady) (annotations : Annotations)
    (span : Span) (ty : Ty) : (fields : List Field) →
      tandem.Steps (assertFields annotations span ty fields)
        (assertFields annotations span ty fields)
  | [] => .answered ()
  | .mk name annotation :: rest => by
    rw [CallTyping.assertFields]
    exact (steady.annotatedField span ty name).bind fun found =>
      (assertType steady annotations span found annotation).bind fun _ =>
        assertFields steady annotations span ty rest

end

theorem selectArm (steady : tandem.Steady) (unknown : UnknownArms) (variant : VariantId)
    (arm : Arm) : tandem.Steps (selectArm unknown variant arm) (selectArm unknown variant arm) := by
  obtain ⟨span, tag, args, body⟩ := arm
  refine .read fun checker checker' together => ?_
  rw [steady.heap together]
  dsimp only
  cases checker.heap.tag? variant tag with
  | some expected =>
    dsimp only
    split
    · exact .answered _
    · exact steady.failed _ _
  | none =>
    cases unknown with
    | skip => exact (steady.recorded _).bind fun _ => .answered none
    | reject => exact steady.failed _ _

theorem joinArm (steady : tandem.Steady) (span : Span) (previous : Option Ty)
    (ty : Ty) : tandem.Steps (joinArm span previous ty) (joinArm span previous ty) := by
  cases previous with
  | none => exact .answered ty
  | some expected => exact steady.joinTypes _ span expected ty

theorem typeOfMatch (steady : tandem.Steady) (span : Span) (scrutinee : Ty)
    (arms : Option Ty) :
    tandem.Steps (typeOfMatch span scrutinee arms) (typeOfMatch span scrutinee arms) := by
  cases arms with
  | none => exact steady.failed _ _
  | some ty => exact .answered ty

theorem typeOfBlock (steady : tandem.Steady) (span : Span) (params : List String)
    (body : Program) : tandem.Steps (typeOfBlock span params body)
      (typeOfBlock span params body) := by
  intro checker checker' together
  have same : checker'.closures.reserve.1 = checker.closures.reserve.1 :=
    congrArg ClosureId.mk (steady.next together)
  have remembered := steady.block params body.fresh span together
  show tandem.Ends (((), .ok (Ty.function checker.closures.reserve.1 params.length [])), _)
    (((), .ok (Ty.function checker'.closures.reserve.1 params.length [])), _)
  rw [same]
  exact .answer remembered

theorem exposeFile (steady : tandem.Steady) (span : Span) (name file : String) :
    tandem.Steps (exposeFile span name file) (exposeFile span name file) :=
  .read fun checker checker' together => by
    rw [steady.definitions file together]
    dsimp only
    split
    · exact steady.failed _ _
    · exact (steady.newObject _).bind fun ty =>
        (steady.defineName true span name ty).bind fun _ => .answered ty

theorem assign (steady : tandem.Steady) (node : Node) {step step' : Check Ty}
    (steps : tandem.Steps step step') :
    tandem.Along (Visit.assign node step) (Visit.assign node step') := by
  refine (steps.settle node).andThen fun node ty => ?_
  cases node.assign ty with
  | ok typed => exact (Steps.answered ty).settle typed
  | error refused => exact (steady.failed _ _).settle node

theorem bindPattern (steady : tandem.Steady) (args : List Node) (types : List Ty) :
    tandem.Along (bindPattern args types) (bindPattern args types) := by
  fun_induction CallTyping.bindPattern args types with
  | case1 span slot name rest ty types inductionHypothesis =>
    refine (steady.assign _ (.answered ty)).andThen fun arg _ => ?_
    have bound : tandem.Steps (modifyBindings (·.bind name ⟨ty, span⟩))
        (modifyBindings (·.bind name ⟨ty, span⟩)) :=
      .changed fun _ _ => steady.bind name ⟨ty, span⟩
    exact (bound.settle rest).andThen fun rest _ => (inductionHypothesis rest).within _
  | case2 arg rest => exact (steady.failed _ _).settle _
  | case3 => exact (Steps.answered ()).settle _

end Steady

/-! ### Calls and requires -/

namespace Sound

variable {tandem : Tandem} {setup setup' : Setup} {run run' : Runner}

theorem runClosure (sound : tandem.Sound setup setup')
    (runs : tandem.Runs run run')
    (span : Span) (id : ClosureId) (args : List Ty) :
    tandem.Steps (runClosure setup run span id args) (runClosure setup' run' span id args) := by
  intro checker checker' together
  rw [Visit.settle_eq, Visit.settle_eq]
  have same := sound.recalled id args together
  rcases found : checker.cache.recalled? checker.heap id args with _ | ⟨stored, _ | ⟨result, body⟩⟩
  · rw [found] at same
    rw [outcome_runClosure_new found, outcome_runClosure_new same]
    by_cases deep : setup.settings.depthLimit ≤ checker.callDepth
    · rw [if_pos deep]
      rcases sound.deep span together deep with own | ⟨limits, deep'⟩
      · exact .quit own
      · rw [if_pos deep', limits]
        exact .fault (sound.file together) () span _ (sound.refused id args together)
    · rw [if_neg deep, if_neg (Nat.not_le_of_lt (sound.shallow together (Nat.lt_of_not_le deep)))]
      have closures := sound.beginBody id together
      generalize checker.closures.get? id = known, checker'.closures.get? id = known'
        at closures ⊢
      cases closures with
      | none =>
        exact .fault (sound.file together) () span _ (sound.refused id args together)
      | @some closure closure' begins =>
        have both := runs (.body id args) closure.body _ _ (begins.2 args)
        dsimp only
        rw [begins.1]
        generalize run (.body id args) closure.body (checker.beginBody id closure args) = ended,
          run' (.body id args) closure.body (checker'.beginBody id closure' args) = ended'
          at both ⊢
        cases both with
        | quit own => exact .quit own
        | answer later => exact .answer (sound.endBody id args _ _ together later)
        | stop stopped => exact .stop (sound.stopBody id args together stopped)
  · rw [found] at same
    rw [outcome_runClosure_running found, outcome_runClosure_running same]
    exact .fault (sound.file together) () span _ (sound.halts together)
  · rw [found] at same
    rw [outcome_runClosure_known found, outcome_runClosure_known same]
    exact .answer (sound.record _ together)

theorem typeOfCall (sound : tandem.Sound setup setup')
    (runs : tandem.Runs run run')
    (span calleeSpan : Span) (types : List Ty) :
    tandem.Steps (typeOfCall setup run span calleeSpan types)
      (typeOfCall setup' run' span calleeSpan types) := by
  match types with
  | [] => exact .answered Ty.unit
  | [ty] => exact .answered ty
  | .function id arity bound :: arg :: args =>
    simp only [CallTyping.typeOfCall, applyFunction]
    split
    · exact .answered _
    · split
      · exact sound.runClosure runs span id _
      · split
        · exact sound.runClosure runs span id _
        · exact sound.failed _ _
  | .unit :: _ :: _ | .bool :: _ :: _ | .integer :: _ :: _ | .float :: _ :: _
  | .string :: _ :: _ | .object _ :: _ :: _ | .variant _ :: _ :: _ => exact sound.failed _ _

/-- A file that is loaded and then exposed. -/
theorem loadAndExpose (sound : tandem.Sound setup setup')
    (runs : tandem.Runs run run')
    (span : Span) (name file : String) {checker checker' : Checker}
    (together : tandem.together checker checker') (closed : checker.isOpen file = false)
    (unknown : checker.bindings.hasDefinitions file = false) :
    tandem.Ends
      (Visit.settle () (loadFile setup run span file >>= fun _ =>
        CallTyping.exposeFile span name file) checker)
      (Visit.settle () (loadFile setup' run' span file >>= fun _ =>
        CallTyping.exposeFile span name file) checker') := by
  rw [Visit.settle_eq, Visit.settle_eq, Check.outcome_bind, Check.outcome_bind, outcome_loadFile,
    outcome_loadFile, sound.loader]
  cases setup.loader.load file with
  | error message =>
    exact .fault (sound.file together) () span _ (sound.missing file together closed unknown)
  | ok program =>
    have both := runs (.file file) program _ _ (sound.beginFile file together closed unknown)
    dsimp only
    generalize run (.file file) program (checker.beginFile file) = ended,
      run' (.file file) program (checker'.beginFile file) = ended' at both ⊢
    cases both with
    | quit own => exact .quit own
    | answer later => exact sound.expose span name file _ together closed later
    | stop stopped => exact .stop (sound.stopFile file together closed stopped)

theorem typeOfRequire (sound : tandem.Sound setup setup')
    (runs : tandem.Runs run run')
    (span : Span) (name : String) :
    tandem.Steps (typeOfRequire setup run span name) (typeOfRequire setup' run' span name) := by
  intro checker checker' together
  unfold CallTyping.typeOfRequire
  rw [Visit.settle_eq, Visit.settle_eq, Check.outcome_bind, Check.outcome_get, Check.outcome_bind,
    Check.outcome_get]
  dsimp only
  rw [sound.file together, sound.extension]
  generalize requiredFile checker.file name setup.settings.extension = file
  rcases sound.isOpen span file together with ⟨own, opened⟩ | sameOpen
  · rw [opened, if_pos rfl]
    exact .quit own
  have sameDefined : checker'.bindings.hasDefinitions file =
      checker.bindings.hasDefinitions file :=
    congrArg (fun definitions : Frame => !definitions.isEmpty) (sound.definitions file together)
  rw [sameOpen, sameDefined]
  cases opened : checker.isOpen file with
  | true => exact sound.failed _ _ checker checker' together
  | false =>
    cases defined : checker.bindings.hasDefinitions file with
    | true =>
      exact (sound.recorded _).bind (fun _ => sound.exposeFile span name file) checker checker'
        together
    | false => exact sound.loadAndExpose runs span name file together opened defined

/-! ### The pass over a tree -/

theorem selectArms (sound : tandem.Sound setup setup') (variant : VariantId) (arms : List Arm) :
    tandem.Steps (selectArms setup.settings.unknownArms variant arms)
      (selectArms setup'.settings.unknownArms variant arms) := by
  induction arms with
  | nil => exact .answered []
  | cons arm rest inductionHypothesis =>
    exact (sound.arm variant arm).bind fun choice =>
      inductionHypothesis.bind fun choices => .answered (choice :: choices)

/-- A scope that is entered and left again. -/
theorem inScope (sound : tandem.Sound setup setup') {visit visit' : Visit α β}
    (along : tandem.Along visit visit') :
    tandem.Along (visit.between Checker.enterScope Checker.leaveScope)
      (visit'.between Checker.enterScope Checker.leaveScope) := by
  intro checker checker' together
  have both := along _ _ (sound.enterScope together)
  unfold Visit.between
  generalize visit checker.enterScope = ended, visit' checker'.enterScope = ended' at both ⊢
  cases both with
  | quit own => exact .quit own
  | answer together => exact .answer (sound.leaveScope together)
  | stop stopped => exact .stop (sound.stopScope stopped)

mutual

theorem visitNode (sound : tandem.Sound setup setup') (runs : tandem.Runs run run')
    (toplevel : Bool) : (node : Node) →
    tandem.Along (visitNode setup run toplevel node) (visitNode setup' run' toplevel node)
  | .mk span slot expr => by
    unfold CallTyping.visitNode
    refine ((sound.recorded _).settle ()).andThen fun _ _ => ?_
    cases slot with
    | some ty => exact (sound.failed _ _).settle _
    | none => exact (visitExpr sound runs toplevel span expr).asNode span

theorem visitExpr (sound : tandem.Sound setup setup') (runs : tandem.Runs run run')
    (toplevel : Bool) (span : Span) : (expr : Expr) →
    tandem.Along (visitExpr setup run toplevel span expr)
      (visitExpr setup' run' toplevel span expr)
  | .ident name => by
    simp only [CallTyping.visitExpr]
    exact (sound.typeOfName span name).settle _
  | .literal value => by
    simp only [CallTyping.visitExpr]
    exact (Steps.answered _).settle _
  | .call children => by
    simp only [CallTyping.visitExpr]
    exact (visitNodes sound runs false children).andThen fun children types =>
      (sound.typeOfCall runs span _ types).settle _
  | .block params body => by
    simp only [CallTyping.visitExpr]
    exact (sound.typeOfBlock span params body).settle _
  | .ifThen condition body => by
    simp only [CallTyping.visitExpr]
    refine (visitNode sound runs false condition).andThen fun condition ty => ?_
    refine (visitNodes sound runs false body).andThen fun body _ => ?_
    exact ((sound.expectBool condition.span ty).bind fun _ => .answered _).settle _
  | .ifThenElse condition body alternative => by
    simp only [CallTyping.visitExpr]
    refine (visitNode sound runs false condition).andThen fun condition ty => ?_
    refine (visitNodes sound runs false body).andThen fun body types => ?_
    refine (visitNodes sound runs false alternative).andThen fun alternative others => ?_
    exact (sound.typeOfConditional span condition.span ty _ _).settle _
  | .whileLoop condition body => by
    simp only [CallTyping.visitExpr]
    refine (visitNode sound runs false condition).andThen fun condition _ => ?_
    exact (visitNodes sound runs false body).andThen fun body _ => (Steps.answered _).settle _
  | .caseOf scrutinee arms => by
    simp only [CallTyping.visitExpr]
    refine (visitNode sound runs false scrutinee).andThen fun scrutinee ty => ?_
    have chosen := (sound.expectVariant scrutinee.span ty).bind fun variant =>
      sound.selectArms variant arms
    refine (chosen.settle ()).andThen fun _ choices => ?_
    exact (visitArms sound runs span arms choices none).andThen fun arms result =>
      (sound.typeOfMatch span ty result).settle _
  | .dot target field => by
    simp only [CallTyping.visitExpr]
    exact (visitNode sound runs false target).andThen fun target ty =>
      (sound.typeOfField target.span ty field).settle _
  | .update target value => by
    simp only [CallTyping.visitExpr]
    exact (visitNode sound runs false value).andThen fun value ty =>
      (visitTarget sound runs value.span ty target).within _
  | .assertion value described => by
    simp only [CallTyping.visitExpr]
    rw [sound.annotations]
    exact (visitNode sound runs false value).andThen fun value ty =>
      ((sound.assertType setup.annotations value.span ty described).bind fun _ =>
        .answered ty).settle _
  | .object fields => by
    simp only [CallTyping.visitExpr]
    exact (visitFields sound runs fields).andThen fun fields types =>
      (sound.newObject types).settle _
  | .variant tag args => by
    simp only [CallTyping.visitExpr]
    exact (visitNodes sound runs false args).andThen fun args types =>
      (sound.newVariant tag types).settle _
  | .define name value => by
    simp only [CallTyping.visitExpr]
    exact (visitNode sound runs false value).andThen fun value ty =>
      (sound.defineName toplevel span name ty).settle _
  | .require name => by
    simp only [CallTyping.visitExpr]
    exact (sound.typeOfRequire runs span name).settle _
  | .inlay inner => by
    simp only [CallTyping.visitExpr]
    exact (visitNode sound runs false inner).andThen fun inner ty =>
      (sound.noteInlay span ty).settle _

theorem visitTarget (sound : tandem.Sound setup setup') (runs : tandem.Runs run run')
    (valueSpan : Span) (new : Ty) : (target : Node) →
    tandem.Along (visitTarget setup run valueSpan new target)
      (visitTarget setup' run' valueSpan new target)
  | .mk span slot (.ident name) => by
    simp only [CallTyping.visitTarget]
    exact sound.assign _ (sound.updateVariable span valueSpan name new)
  | .mk span slot (.dot base field) => by
    simp only [CallTyping.visitTarget]
    split
    · exact (visitNode sound runs false base).andThen fun base ty =>
        sound.assign _ (sound.updateField base.span valueSpan ty field new)
    · exact (sound.failed _ _).settle _
  | .mk span _ (.literal _) | .mk span _ (.call _) | .mk span _ (.block _ _)
  | .mk span _ (.ifThen _ _) | .mk span _ (.ifThenElse _ _ _) | .mk span _ (.whileLoop _ _)
  | .mk span _ (.caseOf _ _) | .mk span _ (.update _ _) | .mk span _ (.assertion _ _)
  | .mk span _ (.object _) | .mk span _ (.variant _ _) | .mk span _ (.define _ _)
  | .mk span _ (.require _) | .mk span _ (.inlay _) =>
    (sound.failed span .invalidAssignTarget).settle _

theorem visitNodes (sound : tandem.Sound setup setup') (runs : tandem.Runs run run')
    (toplevel : Bool) : (nodes : List Node) →
    tandem.Along (visitNodes setup run toplevel nodes) (visitNodes setup' run' toplevel nodes)
  | [] => by
    simp only [CallTyping.visitNodes]
    exact (Steps.answered _).settle _
  | node :: rest => by
    simp only [CallTyping.visitNodes]
    exact (visitNode sound runs toplevel node).andThen fun node ty =>
      (visitNodes sound runs toplevel rest).andThen fun rest types => (Steps.answered _).settle _

theorem visitFields (sound : tandem.Sound setup setup') (runs : tandem.Runs run run') :
    (fields : List Field) →
    tandem.Along (visitFields setup run fields) (visitFields setup' run' fields)
  | [] => by
    simp only [CallTyping.visitFields]
    exact (Steps.answered _).settle _
  | .mk name value :: rest => by
    simp only [CallTyping.visitFields]
    exact (visitNode sound runs false value).andThen fun value ty =>
      (visitFields sound runs rest).andThen fun rest types => (Steps.answered _).settle _

theorem visitArms (sound : tandem.Sound setup setup') (runs : tandem.Runs run run')
    (span : Span) : (arms : List Arm) → (choices : List (Option (List Ty))) →
    (previous : Option Ty) →
      tandem.Along (visitArms setup run span arms choices previous)
        (visitArms setup' run' span arms choices previous)
  | arm :: rest, some expected :: choices, previous => by
    simp only [CallTyping.visitArms]
    refine (visitArm sound runs expected arm).andThen fun arm ty => ?_
    exact ((sound.joinArm span previous ty).settle ()).andThen fun _ joined =>
      (visitArms sound runs span rest choices (some joined)).within _
  | arm :: rest, none :: choices, previous => by
    simp only [CallTyping.visitArms]
    exact (visitArms sound runs span rest choices previous).within _
  | [], _, previous | _ :: _, [], previous => by
    unfold CallTyping.visitArms
    exact (Steps.answered _).settle _

theorem visitArm (sound : tandem.Sound setup setup') (runs : tandem.Runs run run')
    (expected : List Ty) : (arm : Arm) →
    tandem.Along (visitArm setup run expected arm) (visitArm setup' run' expected arm)
  | .mk span tag args body => by
    simp only [CallTyping.visitArm]
    refine sound.inScope ?_
    refine (sound.bindPattern args expected).andThen fun args _ => ?_
    exact (visitNodes sound runs false body).andThen fun body types => (Steps.answered _).settle _

end

/-! ### Runs -/

/-- Two runs with as many levels come to the same. -/
theorem runWithin (sound : tandem.Sound setup setup') (levels : Nat) :
    tandem.Runs (runWithin setup levels) (runWithin setup' levels) := by
  induction levels with
  | zero => exact fun _ program => sound.exhausted.settle program
  | succ levels inductionHypothesis =>
    exact fun occasion program => sound.visitNodes inductionHypothesis occasion.isFile program

end Sound

end Tandem

end CallTyping
