/-
This file proves what a pass keeps where the top level of a file and the bodies below
it are to be told apart. Most rules neither bind names nor say anything about
requires, and leave aside what other files have to do with. What remains are the
visits of requires, definitions at the top level, names in the innermost scope, blocks
that are remembered, and calls. A change that all of these make is made by the whole
pass; it is enough if those make it that the tree allows.
-/

import CallTyping.Proofs.HeapGrowth

namespace CallTyping

/-- Whether an event tells of a require, that it is visited or that its file is known. -/
def Event.isOfRequire : Event → Bool
  | .visiting kind _ => kind == "require"
  | .moduleKnown _ => true
  | _ => false

/-! ### Rules that have nothing to do with names or files -/

/-- Names, blocks and modules are as before, the heap has at most grown, and nothing is told about
requires. -/
structure Aside (before after : Checker) : Prop where
  heap : before.heap.Grows after.heap
  bindings : after.bindings = before.bindings
  closures : after.closures = before.closures
  modules : after.modules = before.modules
  log : ∃ events, after.log = before.log ++ events ∧ ∀ event ∈ events, event.isOfRequire = false

namespace Aside

theorem of_grows {before after : Checker} (heap : before.heap.Grows after.heap)
    (bindings : after.bindings = before.bindings) (closures : after.closures = before.closures)
    (modules : after.modules = before.modules) (log : after.log = before.log) :
    Aside before after :=
  ⟨heap, bindings, closures, modules, #[], log.trans Array.append_empty.symm, nofun⟩

theorem of_eq {before after : Checker} (heap : after.heap = before.heap)
    (bindings : after.bindings = before.bindings) (closures : after.closures = before.closures)
    (modules : after.modules = before.modules) (log : after.log = before.log) :
    Aside before after :=
  .of_grows (heap ▸ .refl before.heap) bindings closures modules log

theorem refl (checker : Checker) : Aside checker checker := .of_eq rfl rfl rfl rfl rfl

theorem trans {before middle after : Checker} (left : Aside before middle)
    (right : Aside middle after) : Aside before after := by
  obtain ⟨events, log, others⟩ := left.log
  obtain ⟨events', log', others'⟩ := right.log
  refine ⟨left.heap.trans right.heap, right.bindings.trans left.bindings,
    right.closures.trans left.closures, right.modules.trans left.modules,
    events ++ events', by rw [log', log, Array.append_assoc], fun event member => ?_⟩
  exact (Array.mem_append.mp member).elim (others event) (others' event)

theorem record (checker : Checker) {event : Event} (other : event.isOfRequire = false) :
    Aside checker { checker with log := checker.log.push event } :=
  ⟨.refl _, rfl, rfl, rfl, #[event], rfl, fun found member => by
    rw [Array.mem_singleton.mp member]
    exact other⟩

end Aside

/-- A visit that leaves names and modules aside. -/
def LeavesAside {α β : Type} (visit : Visit α β) : Prop :=
  ∀ checker, Aside checker (visit checker).2

namespace LeavesAside

variable {α β γ δ : Type}

theorem andThen {visit : Visit α β} {around : α → γ} {next : α → β → Visit γ δ}
    (first : LeavesAside visit) (rest : ∀ piece found, LeavesAside (next piece found)) :
    LeavesAside (visit.andThen around next) := by
  intro checker
  have start := first checker
  rcases result : visit checker with ⟨⟨piece, stop | found⟩, after⟩
  · rw [result] at start
    rw [Visit.andThen_error result]
    exact start
  · rw [result] at start
    rw [Visit.andThen_ok result]
    exact start.trans (rest piece found after)

theorem pure (tree : α) (answer : β) : LeavesAside (.settle tree (Pure.pure answer)) :=
  fun checker => .refl checker

theorem fail (tree : α) (span : Span) (fault : Fault) :
    LeavesAside (.settle tree (CallTyping.fail span fault : Check β)) :=
  fun checker => .refl checker

theorem bind {tree : α} {step : Check β} {next : β → Check γ}
    (first : LeavesAside (.settle tree step))
    (rest : ∀ answer, LeavesAside (.settle tree (next answer))) :
    LeavesAside (.settle tree (step >>= next)) := by
  rw [Visit.settle_bind]
  exact first.andThen fun piece answer checker => rest answer checker

theorem assign {node : Node} {step : Check Ty} (aside : LeavesAside (.settle node step)) :
    LeavesAside (Visit.assign node step) := by
  refine aside.andThen fun node ty => ?_
  split
  · exact fun checker => .refl checker
  · exact fun checker => .refl checker

theorem typeOfName (tree : α) (span : Span) (name : String) :
    LeavesAside (.settle tree (typeOfName span name)) := by
  intro checker
  rw [Visit.settle_eq, CallTyping.typeOfName, Check.outcome_bind, Check.outcome_get]
  dsimp only
  split <;> exact .refl checker

theorem joinTypes (tree : α) (reason : String) (span : Span) (expected found : Ty) :
    LeavesAside (.settle tree (joinTypes reason span expected found)) := by
  intro checker
  rw [Visit.settle_eq, CallTyping.joinTypes, Check.outcome_bind, Check.outcome_get]
  dsimp only
  split
  next joined => exact .of_grows (Heap.join_grows joined) rfl rfl rfl rfl
  next => exact .refl checker

theorem expectBool (tree : α) (span : Span) (ty : Ty) :
    LeavesAside (.settle tree (expectBool span ty)) := by
  unfold CallTyping.expectBool
  split
  · exact pure tree _
  · exact fail tree span _

theorem typeOfConditional (tree : α) (span conditionSpan : Span)
    (condition body alternative : Ty) :
    LeavesAside (.settle tree (typeOfConditional span conditionSpan condition body alternative)) :=
  (expectBool tree conditionSpan condition).bind fun _ => joinTypes tree _ span body alternative

theorem noteInlay (tree : α) (span : Span) (ty : Ty) :
    LeavesAside (.settle tree (noteInlay span ty)) := by
  intro checker
  have recorded := Aside.record checker
    (show (Event.inlay checker.file span (checker.heap.text ty)).isOfRequire = false from rfl)
  exact ⟨recorded.heap, rfl, rfl, rfl, recorded.log⟩

theorem newObject (tree : α) (fields : List (String × Ty)) :
    LeavesAside (.settle tree (newObject fields)) :=
  fun checker => .of_grows (checker.heap.newObject_grows _) rfl rfl rfl rfl

theorem newVariant (tree : α) (tag : String) (args : List Ty) :
    LeavesAside (.settle tree (newVariant tag args)) :=
  fun checker => .of_grows (checker.heap.newVariant_grows _) rfl rfl rfl rfl

theorem expectObject (tree : α) (span : Span) (ty : Ty) :
    LeavesAside (.settle tree (expectObject span ty)) := by
  cases ty <;> exact fun checker => .refl checker

theorem typeOfField (tree : α) (span : Span) (ty : Ty) (field : String) :
    LeavesAside (.settle tree (typeOfField span ty field)) := by
  refine (expectObject tree span ty).bind fun object checker => ?_
  rw [Visit.settle_eq, Check.outcome_bind, Check.outcome_get]
  dsimp only
  split <;> exact .refl checker

theorem updateVariable (tree : α) (span valueSpan : Span) (name : String) (new : Ty) :
    LeavesAside (.settle tree (updateVariable span valueSpan name new)) := by
  intro checker
  rw [Visit.settle_eq, Check.outcome_updateVariable, ← Visit.settle_eq tree]
  exact (typeOfName tree span name).bind (fun old => joinTypes tree _ _ old new) checker

theorem updateField (tree : α) (objectSpan valueSpan : Span) (ty : Ty) (field : String)
    (new : Ty) : LeavesAside (.settle tree (updateField objectSpan valueSpan ty field new)) := by
  intro checker
  rw [Visit.settle_eq, Check.outcome_updateField, ← Visit.settle_eq tree]
  cases ty with
  | object object =>
    simp only [CallTyping.expectObject, pure_bind]
    split
    next old _ => exact joinTypes tree _ _ old new checker
    next absent =>
      exact .of_grows (checker.heap.setField_grows object field new absent) rfl rfl rfl rfl
  | _ => exact .refl checker

theorem expectKind (tree : α) (span : Span) (expected : Kind) (ty : Ty) :
    LeavesAside (.settle tree (expectKind span expected ty)) := by
  unfold CallTyping.expectKind
  split
  · exact pure tree _
  · exact fail tree span _

theorem annotatedField (tree : α) (span : Span) (ty : Ty) (field : String) :
    LeavesAside (.settle tree (annotatedField span ty field)) := by
  cases ty with
  | object id =>
    intro checker
    rw [Visit.settle_eq, CallTyping.annotatedField, Check.outcome_bind, Check.outcome_get]
    dsimp only
    split <;> exact .refl checker
  | _ => exact fail tree span _

mutual

theorem assertType (tree : α) (annotations : Annotations) (span : Span) (ty : Ty) :
    (described : Node) → LeavesAside (.settle tree (assertType annotations span ty described))
  | .mk _ _ (.object fields) => by
    rw [CallTyping.assertType]
    exact (expectKind tree span .object ty).bind fun _ =>
      assertFields tree annotations span ty fields
  | .mk place _ (.ident name) => by
    rw [CallTyping.assertType]
    split
    · exact expectKind tree span _ ty
    · exact fail tree place _
  | .mk place _ (.literal _) | .mk place _ (.call _) | .mk place _ (.block _ _)
  | .mk place _ (.ifThen _ _) | .mk place _ (.ifThenElse _ _ _) | .mk place _ (.whileLoop _ _)
  | .mk place _ (.caseOf _ _) | .mk place _ (.dot _ _) | .mk place _ (.update _ _)
  | .mk place _ (.assertion _ _) | .mk place _ (.variant _ _) | .mk place _ (.define _ _)
  | .mk place _ (.require _) | .mk place _ (.inlay _) => fail tree place _

theorem assertFields (tree : α) (annotations : Annotations) (span : Span) (ty : Ty) :
    (fields : List Field) → LeavesAside (.settle tree (assertFields annotations span ty fields))
  | [] => pure tree ()
  | .mk name annotation :: rest => by
    rw [CallTyping.assertFields]
    refine (annotatedField tree span ty name).bind fun found => ?_
    exact (assertType tree annotations span found annotation).bind fun _ =>
      assertFields tree annotations span ty rest

end

theorem selectArm (tree : α) (unknown : UnknownArms) (variant : VariantId) (arm : Arm) :
    LeavesAside (.settle tree (selectArm unknown variant arm)) := by
  obtain ⟨span, tag, args, body⟩ := arm
  intro checker
  rw [Visit.settle_eq, CallTyping.selectArm, Check.outcome_bind, Check.outcome_get]
  dsimp only
  split
  · split <;> exact .refl checker
  · cases unknown with
    | skip => exact .record checker rfl
    | reject => exact .refl checker

theorem selectArms (tree : α) (unknown : UnknownArms) (variant : VariantId) (arms : List Arm) :
    LeavesAside (.settle tree (selectArms unknown variant arms)) := by
  induction arms with
  | nil => exact pure tree _
  | cons arm rest inductionHypothesis =>
    exact (selectArm tree unknown variant arm).bind fun choice =>
      inductionHypothesis.bind fun choices => pure tree _

theorem chooseArms (tree : α) (unknown : UnknownArms) (span : Span) (ty : Ty)
    (arms : List Arm) :
    LeavesAside (.settle tree (CallTyping.expectVariant span ty >>= fun variant =>
      CallTyping.selectArms unknown variant arms)) := by
  cases ty with
  | variant id => exact (pure tree id).bind fun variant => selectArms tree unknown variant arms
  | _ => exact fail tree span _

theorem joinArm (tree : α) (span : Span) (previous : Option Ty) (ty : Ty) :
    LeavesAside (.settle tree (joinArm span previous ty)) := by
  cases previous with
  | some expected => exact joinTypes tree _ span expected ty
  | none => exact pure tree ty

theorem typeOfMatch (tree : α) (span : Span) (scrutinee : Ty) (arms : Option Ty) :
    LeavesAside (.settle tree (typeOfMatch span scrutinee arms)) := by
  cases arms <;> exact fun checker => .refl checker

theorem visitIdent (setup : Setup) (run : Runner) (toplevel : Bool) :
    (node : Node) → node.isIdent = true → LeavesAside (visitNode setup run toplevel node)
  | .mk span slot (.ident name), _ => by
    unfold visitNode
    refine andThen (fun checker => .record checker rfl) fun _ _ => ?_
    cases slot with
    | some ty => exact fun checker => .refl checker
    | none =>
      simp only [visitExpr]
      exact typeOfName (Expr.ident name) span name

theorem visitTarget (setup : Setup) (run : Runner) (valueSpan : Span) (new : Ty) (target : Node) :
    LeavesAside (visitTarget setup run valueSpan new target) := by
  obtain ⟨span, slot, expr⟩ := target
  cases expr with
  | ident name =>
    simp only [CallTyping.visitTarget]
    exact (updateVariable _ span valueSpan name new).assign
  | dot base field =>
    simp only [CallTyping.visitTarget]
    split
    next named =>
      exact (visitIdent setup run false base named).andThen fun base ty =>
        (updateField _ base.span valueSpan ty field new).assign
    next => exact fun checker => .refl checker
  | _ => exact fun checker => .refl checker

end LeavesAside

/-! ### Passes -/

/-- The nodes hold allowed expressions only. -/
def Allowed (allows : Expr → Prop) (nodes : List Node) : Prop :=
  ∀ node ∈ nodes, allows node.expr

section

variable {allows : Expr → Prop} {node : Node} {rest left right : List Node}

theorem allowed_cons :
    Allowed allows (node :: rest) ↔ allows node.expr ∧ Allowed allows rest :=
  List.forall_mem_cons

theorem allowed_append :
    Allowed allows (left ++ right) ↔ Allowed allows left ∧ Allowed allows right :=
  List.forall_mem_append

end

/-- A change that is made wherever a pass over trees in which only such expressions occur does more
than to leave names, blocks and modules aside. -/
structure Course (allows : Expr → Prop) (change : Checker → Checker → Prop) (setup : Setup)
    (run : Runner) : Prop where
  aside {before after : Checker} : Aside before after → change before after
  trans {before middle after : Checker} :
    change before middle → change middle after → change before after
  bind (checker : Checker) (name : String) (binding : Binding) :
    change checker { checker with bindings := checker.bindings.bind name binding }
  block (checker : Checker) (span : Span) (params : List String) (body : Program) :
    Allowed allows (preorderNodes body) →
      change checker (Conduct.remembered checker
        ⟨params, body.fresh, span, checker.file, checker.bindings.scopes⟩)
  scope {checker after : Checker} :
    change checker.enterScope after → change checker after.leaveScope
  call {checker : Checker} {span : Span} {id : ClosureId} {args : List Ty}
    {outcome : Except Stop Ty × Checker} :
    CallEnds setup run span id args checker outcome → change checker outcome.2
  require (toplevel : Bool) (span : Span) (slot : Option Ty) (name : String) (checker : Checker) :
    allows (.require name) →
      change checker (visitNode setup run toplevel (.mk span slot (.require name)) checker).2

/-- The same change is made by definitions among statements at this level. -/
def Course.Defines (change : Checker → Checker → Prop) (toplevel : Bool) : Prop :=
  toplevel = true → ∀ (checker : Checker) (name : String) (binding : Binding),
    change checker
      { checker with bindings := checker.bindings.define checker.file name binding }

namespace Course

variable {α β γ δ : Type} {allows : Expr → Prop} {change : Checker → Checker → Prop}
  {setup : Setup} {run : Runner}

/-- The change that a visit makes. -/
def Of (change : Checker → Checker → Prop) (visit : Visit α β) (checker : Checker) : Prop :=
  change checker (visit checker).2

theorem below : Defines change false := fun impossible => nomatch impossible

theorem still (course : Course allows change setup run) (checker : Checker) :
    change checker checker :=
  course.aside (.refl checker)

theorem andThen (course : Course allows change setup run) {visit : Visit α β} {around : α → γ}
    {next : α → β → Visit γ δ} {checker : Checker} (first : Of change visit checker)
    (rest : ∀ piece found after, Of change (next piece found) after) :
    Of change (visit.andThen around next) checker := by
  unfold Of at first ⊢
  rcases result : visit checker with ⟨⟨piece, stop | found⟩, after⟩
  · rw [result] at first
    rw [Visit.andThen_error result]
    exact first
  · rw [result] at first
    rw [Visit.andThen_ok result]
    exact course.trans first (rest piece found after)

/-- A visit that leaves names and modules aside. -/
theorem leaf (course : Course allows change setup run) {visit : Visit α β}
    (aside : LeavesAside visit)
    (checker : Checker) : Of change visit checker :=
  course.aside (aside checker)

theorem bindPattern (course : Course allows change setup run) (args : List Node) (types : List Ty)
    (checker : Checker) : Of change (bindPattern args types) checker := by
  fun_induction CallTyping.bindPattern args types generalizing checker with
  | case1 span slot name rest ty types inductionHypothesis =>
    refine course.andThen (course.leaf (LeavesAside.assign (.pure _ ty)) checker)
      fun arg _ middle => ?_
    exact course.andThen (course.bind middle name ⟨ty, span⟩) fun rest _ later =>
      inductionHypothesis rest later
  | case2 => exact course.still checker
  | case3 => exact course.still checker

theorem typeOfCall (course : Course allows change setup run) (tree : α) (span calleeSpan : Span)
    (types : List Ty) (checker : Checker) :
    Of change (.settle tree (typeOfCall setup run span calleeSpan types)) checker := by
  have called (id : ClosureId) (args : List Ty) :
      change checker ((runClosure setup run span id args).outcome checker).2 :=
    course.call (runClosure_ends setup run span id args checker)
  match types with
  | [] | [ty] => exact course.still checker
  | .function id arity bound :: arg :: args =>
    simp only [CallTyping.typeOfCall, applyFunction]
    split
    · exact course.still checker
    · split
      · exact called id _
      · split
        · exact called id _
        · exact course.still checker
  | .unit :: _ :: _ | .bool :: _ :: _ | .integer :: _ :: _ | .float :: _ :: _
  | .string :: _ :: _ | .object _ :: _ :: _ | .variant _ :: _ :: _ => exact course.still checker

theorem defineName (course : Course allows change setup run) {toplevel : Bool}
    (defines : Defines change toplevel) (tree : α) (span : Span) (name : String) (ty : Ty)
    (checker : Checker) :
    Of change (.settle tree (defineName toplevel span name ty)) checker := by
  cases toplevel with
  | true => exact defines rfl checker name ⟨ty, span⟩
  | false => exact course.bind checker name ⟨ty, span⟩

theorem kindName_require {expr : Expr} (other : ∀ name, expr ≠ .require name) (span : Span) :
    (Event.visiting expr.kindName span).isOfRequire = false := by
  cases expr <;> first | rfl | exact absurd rfl (other _)

mutual

theorem visitNode (course : Course allows change setup run) {toplevel : Bool}
    (defines : Defines change toplevel) (checker : Checker) :
    (node : Node) → (allowed : Allowed allows node.preorder) →
      Of change (visitNode setup run toplevel node) checker
  | .mk span slot expr, allowed => by
    obtain ⟨allowedExpr, inside⟩ := allowed_cons.mp allowed
    by_cases required : ∃ name, expr = .require name
    · obtain ⟨name, rfl⟩ := required
      exact course.require toplevel span slot name checker allowedExpr
    have other : ∀ name, expr ≠ .require name := fun name equal => required ⟨name, equal⟩
    unfold CallTyping.visitNode
    refine course.andThen (course.leaf (fun checker => .record checker
      (kindName_require other span)) checker) fun _ _ after => ?_
    cases slot with
    | some ty => exact course.still after
    | none => exact visitExpr course defines span after expr other inside

theorem visitExpr (course : Course allows change setup run) {toplevel : Bool}
    (defines : Defines change toplevel) (span : Span) (checker : Checker) :
    (expr : Expr) → (∀ name, expr ≠ .require name) → Allowed allows expr.preorder →
      Of change (visitExpr setup run toplevel span expr) checker
  | .ident name, _, _ => by
    simp only [CallTyping.visitExpr]
    exact course.leaf (.typeOfName _ span name) checker
  | .literal value, _, _ => by
    simp only [CallTyping.visitExpr]
    exact course.still checker
  | .call children, _, inside => by
    simp only [CallTyping.visitExpr]
    exact course.andThen (visitNodes course below checker children inside) fun _ types after =>
      course.typeOfCall _ span _ types after
  | .block params body, _, inside => by
    simp only [CallTyping.visitExpr]
    exact course.block checker span params body inside
  | .ifThen condition body, _, inside => by
    simp only [CallTyping.visitExpr]
    obtain ⟨inCondition, inBody⟩ := allowed_append.mp inside
    refine course.andThen (visitNode course below checker condition inCondition)
      fun condition ty after => ?_
    refine course.andThen (visitNodes course below after body inBody) fun _ _ later => ?_
    exact course.leaf ((LeavesAside.expectBool _ condition.span ty).bind fun _ => .pure _ _) later
  | .ifThenElse condition body alternative, _, inside => by
    simp only [CallTyping.visitExpr]
    obtain ⟨inBoth, inAlternative⟩ := allowed_append.mp inside
    obtain ⟨inCondition, inBody⟩ := allowed_append.mp inBoth
    refine course.andThen (visitNode course below checker condition inCondition)
      fun condition ty after => ?_
    refine course.andThen (visitNodes course below after body inBody) fun _ types later => ?_
    refine course.andThen (visitNodes course below later alternative inAlternative)
      fun _ others last => ?_
    exact course.leaf (.typeOfConditional _ span condition.span ty _ _) last
  | .whileLoop condition body, _, inside => by
    simp only [CallTyping.visitExpr]
    obtain ⟨inCondition, inBody⟩ := allowed_append.mp inside
    refine course.andThen (visitNode course below checker condition inCondition)
      fun _ _ after => ?_
    exact course.andThen (visitNodes course below after body inBody) fun _ _ later =>
      course.still later
  | .caseOf scrutinee arms, _, inside => by
    simp only [CallTyping.visitExpr]
    obtain ⟨inScrutinee, inArms⟩ := allowed_append.mp inside
    refine course.andThen (visitNode course below checker scrutinee inScrutinee)
      fun scrutinee ty after => ?_
    refine course.andThen (course.leaf (.chooseArms () _ scrutinee.span ty arms) after)
      fun _ choices later => ?_
    exact course.andThen (visitArms course span later arms choices none inArms)
      fun _ result last => course.leaf (.typeOfMatch _ span ty result) last
  | .dot target field, _, inside => by
    simp only [CallTyping.visitExpr]
    exact course.andThen (visitNode course below checker target inside) fun target ty after =>
      course.leaf (.typeOfField _ target.span ty field) after
  | .update target value, _, inside => by
    simp only [CallTyping.visitExpr]
    refine course.andThen (visitNode course below checker value (allowed_append.mp inside).2)
      fun value ty after => ?_
    exact course.leaf (LeavesAside.visitTarget setup run value.span ty target) after
  | .assertion value described, _, inside => by
    simp only [CallTyping.visitExpr]
    refine course.andThen (visitNode course below checker value (allowed_append.mp inside).1)
      fun value ty after => ?_
    exact course.leaf ((LeavesAside.assertType _ setup.annotations value.span ty described).bind
      fun _ => .pure _ _) after
  | .object fields, _, inside => by
    simp only [CallTyping.visitExpr]
    exact course.andThen (visitFields course checker fields inside) fun _ types after =>
      course.leaf (.newObject _ types) after
  | .variant tag args, _, inside => by
    simp only [CallTyping.visitExpr]
    exact course.andThen (visitNodes course below checker args inside) fun _ types after =>
      course.leaf (.newVariant _ tag types) after
  | .define name value, _, inside => by
    simp only [CallTyping.visitExpr]
    exact course.andThen (visitNode course below checker value inside) fun _ ty after =>
      course.defineName defines _ span name ty after
  | .require name, other, _ => absurd rfl (other name)
  | .inlay value, _, inside => by
    simp only [CallTyping.visitExpr]
    exact course.andThen (visitNode course below checker value inside) fun _ ty after =>
      course.leaf (.noteInlay _ span ty) after

theorem visitNodes (course : Course allows change setup run) {toplevel : Bool}
    (defines : Defines change toplevel) (checker : Checker) :
    (nodes : List Node) → (allowed : Allowed allows (preorderNodes nodes)) →
      Of change (visitNodes setup run toplevel nodes) checker
  | [], _ => by
    simp only [CallTyping.visitNodes]
    exact course.still checker
  | node :: rest, allowed => by
    simp only [CallTyping.visitNodes]
    obtain ⟨inNode, inRest⟩ := allowed_append.mp allowed
    refine course.andThen (visitNode course defines checker node inNode) fun _ _ after => ?_
    exact course.andThen (visitNodes course defines after rest inRest) fun _ _ later =>
      course.still later

theorem visitFields (course : Course allows change setup run) (checker : Checker) :
    (fields : List Field) → Allowed allows (preorderFields fields) →
      Of change (visitFields setup run fields) checker
  | [], _ => by
    simp only [CallTyping.visitFields]
    exact course.still checker
  | .mk name value :: rest, allowed => by
    simp only [CallTyping.visitFields]
    obtain ⟨inValue, inRest⟩ := allowed_append.mp allowed
    refine course.andThen (visitNode course below checker value inValue) fun _ _ after => ?_
    exact course.andThen (visitFields course after rest inRest) fun _ _ later =>
      course.still later

theorem visitArms (course : Course allows change setup run) (span : Span) (checker : Checker) :
    (arms : List Arm) → (choices : List (Option (List Ty))) → (previous : Option Ty) →
      Allowed allows (preorderArms arms) →
      Of change (visitArms setup run span arms choices previous) checker
  | arm :: rest, some expected :: choices, previous, allowed => by
    simp only [CallTyping.visitArms]
    obtain ⟨inArm, inRest⟩ := allowed_append.mp allowed
    refine course.andThen (visitArm course checker expected arm inArm) fun _ ty after => ?_
    refine course.andThen (course.leaf (.joinArm () span previous ty) after)
      fun _ joined later => ?_
    exact visitArms course span later rest choices (some joined) inRest
  | arm :: rest, none :: choices, previous, allowed => by
    simp only [CallTyping.visitArms]
    exact visitArms course span checker rest choices previous (allowed_append.mp allowed).2
  | [], _, previous, _ | _ :: _, [], previous, _ => by
    unfold CallTyping.visitArms
    exact course.still checker

theorem visitArm (course : Course allows change setup run) (checker : Checker)
    (expected : List Ty) :
    (arm : Arm) → Allowed allows arm.preorder →
      Of change (visitArm setup run expected arm) checker
  | .mk span tag args body, allowed => by
    simp only [CallTyping.visitArm]
    refine course.scope (course.andThen (course.bindPattern args expected _) fun _ _ after => ?_)
    exact course.andThen (visitNodes course below after body (allowed_append.mp allowed).2)
      fun _ _ later => course.still later

end

end Course

end CallTyping
