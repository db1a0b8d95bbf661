/-
This file proves what every pass over a tree keeps. A conduct says how the state
may change until a pass answers or stops, and which types it may answer with; it
may be promised for some states and for some trees only. It is enough that the
single actions of a pass conduct themselves so, that a scope which is entered and
left does, and that calls and loads do: then the pass over any such tree does,
from every such state and whether it answers or stops.
-/

import CallTyping.Proofs.Excursion
import CallTyping.Syntax.Preorder

namespace CallTyping

/-- Whether a fault is raised by calls of closures only. -/
def Fault.isOfCall : Fault → Bool
  | .recursiveSpecialization _ _ | .specializationTooDeep _ | .unknownClosure _ => true
  | _ => false

/-- Whether a fault says that the slot of a node is not as a pass has to find it. -/
def Fault.isOfSlot : Fault → Bool
  | .alreadyTyped _ | .untyped => true
  | _ => false

/-- Whether a fault is raised by the typing rules. -/
def Fault.isOfRule (fault : Fault) : Bool := !fault.isOfCall && !fault.isOfSlot

/-- How a pass may behave. -/
structure Conduct where
  /-- The states for which this is promised. -/
  ready : Checker → Prop
  /-- The slots that the nodes of a tree may have for this to be promised. -/
  admits : Option Ty → Prop
  /-- The changes of the state until an answer (`none`) or a stop. -/
  flow : Checker → Option Stop → Checker → Prop
  /-- The types that may be met in a state. -/
  fits : Checker → Ty → Prop
  /-- The places that a tree may have for this to be promised. -/
  marks : Span → Prop := fun _ => True

namespace Conduct

variable {α β γ δ : Type}

/-- An outcome to which the conduct leads, with an answer that is good in the state after it. -/
def Ends (conduct : Conduct) (before : Checker) (good : α → Checker → Prop)
    (outcome : Except Stop α × Checker) : Prop :=
  conduct.ready before →
    match outcome with
    | (.ok answer, after) => conduct.flow before none after ∧ good answer after
    | (.error stop, after) => conduct.flow before (some stop) after

theorem Ends.flow {conduct : Conduct} {before : Checker} {good : α → Checker → Prop}
    {outcome : Except Stop α × Checker} (ends : conduct.Ends before good outcome)
    (ready : conduct.ready before := by exact trivial) :
    conduct.flow before (stopOf outcome.1) outcome.2 := by
  obtain ⟨stop | answer, after⟩ := outcome
  · exact ends ready
  · exact (ends ready).1

theorem Ends.of_ready {conduct : Conduct} {before : Checker} {good : α → Checker → Prop}
    {outcome : Except Stop α × Checker}
    (ends : conduct.ready before → conduct.Ends before good outcome) :
    conduct.Ends before good outcome :=
  fun ready => ends ready ready

/-- A state to which the conduct leads from one for which it is promised. -/
structure Leads (conduct : Conduct) (before after : Checker) : Prop where
  ready : conduct.ready before
  flow : conduct.flow before none after

/-- What is known about an outcome with an answer may be added to what the answer is good for. -/
theorem Ends.also {conduct : Conduct} {before : Checker} {good better : α → Checker → Prop}
    {outcome : Except Stop α × Checker} (ends : conduct.Ends before good outcome)
    (more : ∀ answer after, conduct.Leads before after → outcome = (.ok answer, after) →
      good answer after → better answer after) :
    conduct.Ends before better outcome := by
  intro ready
  have ended := ends ready
  obtain ⟨stop | answer, after⟩ := outcome
  · exact ended
  · exact ⟨ended.1, more answer after ⟨ready, ended.1⟩ rfl ended.2⟩

/-- The conduct is promised for a tree with these nodes. -/
def Admits (conduct : Conduct) (nodes : List Node) : Prop :=
  ∀ node ∈ nodes, conduct.admits node.slot ∧ ∀ place ∈ node.places, conduct.marks place

theorem admits_cons {conduct : Conduct} {node : Node} {rest : List Node} :
    conduct.Admits (node :: rest) ↔
      (conduct.admits node.slot ∧ ∀ place ∈ node.places, conduct.marks place) ∧
        conduct.Admits rest :=
  List.forall_mem_cons

theorem admits_append {conduct : Conduct} {left right : List Node} :
    conduct.Admits (left ++ right) ↔ conduct.Admits left ∧ conduct.Admits right :=
  List.forall_mem_append

theorem Admits.marked {conduct : Conduct} : {node : Node} → conduct.Admits node.preorder →
    conduct.marks node.span
  | .mk _ _ _, admitted => by
    simp only [Node.preorder, admits_cons] at admitted
    exact admitted.1.2 _ List.mem_cons_self

theorem Admits.places {conduct : Conduct} {program : Program}
    (admitted : conduct.Admits program.preorder) :
    ∀ place ∈ program.places, conduct.marks place := by
  intro place member
  obtain ⟨node, inside, own⟩ := List.mem_flatMap.mp member
  exact (admitted node inside).2 place own

/-- All of these types may be met. -/
def FitAll (conduct : Conduct) (checker : Checker) (types : List Ty) : Prop :=
  ∀ ty ∈ types, conduct.fits checker ty

/-- The argument types with which any arm is to be checked may be met. -/
def FitChoices (conduct : Conduct) (checker : Checker) (choices : List (Option (List Ty))) :
    Prop :=
  ∀ choice ∈ choices, ∀ types ∈ choice, conduct.FitAll checker types

/-- A type that may be met is a good answer. -/
def Fitting (conduct : Conduct) (ty : Ty) (checker : Checker) : Prop := conduct.fits checker ty

/-- The state after a block has been remembered. -/
def remembered (checker : Checker) (closure : Closure) : Checker :=
  { checker with
    closures := checker.closures.reserve.2.register checker.closures.reserve.1 closure }

/-- The single actions of a pass, and all that leads out of a tree, conduct themselves so. -/
structure Sound (conduct : Conduct) (setup : Setup) (run : Runner) : Prop where
  still (checker : Checker) : conduct.flow checker none checker
  trans {first second third : Checker} {stop : Option Stop} :
    conduct.flow first none second → conduct.flow second stop third →
      conduct.flow first stop third
  stays {before after : Checker} :
    conduct.flow before none after → conduct.ready before → conduct.ready after
  fault (checker : Checker) (span : Span) (fault : Fault) (marked : conduct.marks span)
    (rule : fault.isOfRule = true := by rfl) :
    conduct.flow checker (some (.fault ⟨checker.file, span, fault⟩)) checker
  refilled (checker : Checker) (span : Span) (old new : Ty) : conduct.marks span →
    conduct.admits (some old) →
      conduct.flow checker (some (.fault ⟨checker.file, span, .alreadyTyped new⟩)) checker
  record (checker : Checker) (event : Event) :
    conduct.flow checker none { checker with log := checker.log.push event }
  inlay (checker : Checker) (span : Span) (ty : Ty) : conduct.fits checker ty →
    conduct.flow checker none
      { checker with inlays := checker.inlays.push ⟨checker.file, span, ty⟩ }
  bind (checker : Checker) (name : String) (ty : Ty) (span : Span) : conduct.fits checker ty →
    conduct.flow checker none
      { checker with bindings := checker.bindings.bind name ⟨ty, span⟩ }
  define (checker : Checker) (name : String) (ty : Ty) (span : Span) : conduct.fits checker ty →
    conduct.flow checker none
      { checker with bindings := checker.bindings.define checker.file name ⟨ty, span⟩ }
  block (checker : Checker) (params : List String) (body : Program) (span : Span) :
    (∀ place ∈ body.places, conduct.marks place) →
    let after := remembered checker
      ⟨params, body.fresh, span, checker.file, checker.bindings.scopes⟩
    conduct.flow checker none after ∧
      conduct.fits after (.function checker.closures.reserve.1 params.length [])
  /-- Growth of the heap. -/
  join (checker : Checker) (left right ty : Ty) (grown : Heap) :
    conduct.fits checker left → conduct.fits checker right →
      checker.heap.join left right = some (ty, grown) →
        conduct.flow checker none { checker with heap := grown }
  object (checker : Checker) (fields : List (String × Ty)) :
    (∀ field ∈ fields, conduct.fits checker field.2) →
      let made := checker.heap.newObject (.ofList fields)
      conduct.flow checker none { checker with heap := made.2 } ∧
        conduct.fits { checker with heap := made.2 } made.1
  variant (checker : Checker) (tag : String) (args : List Ty) : conduct.FitAll checker args →
    let made := checker.heap.newVariant (.singleton tag args)
    conduct.flow checker none { checker with heap := made.2 } ∧
      conduct.fits { checker with heap := made.2 } made.1
  addField (checker : Checker) (id : ObjectId) (name : String) (ty : Ty) :
    conduct.fits checker (.object id) → conduct.fits checker ty →
      checker.heap.field? id name = none →
        conduct.flow checker none { checker with heap := checker.heap.setField id name ty }
  /-- Types that may be met. -/
  keeps {before after : Checker} {ty : Ty} :
    conduct.Leads before after → conduct.fits before ty → conduct.fits after ty
  unit (checker : Checker) : conduct.fits checker .unit
  literal (checker : Checker) (value : Literal) : conduct.fits checker value.type
  lookup (checker : Checker) (name : String) (ty : Ty) : conduct.ready checker →
    checker.lookup name = some ty → conduct.fits checker ty
  field (checker : Checker) (id : ObjectId) (name : String) (ty : Ty) : conduct.ready checker →
    conduct.fits checker (.object id) → checker.heap.field? id name = some ty →
      conduct.fits checker ty
  tag (checker : Checker) (id : VariantId) (name : String) (args : List Ty) :
    conduct.ready checker → conduct.fits checker (.variant id) →
      checker.heap.tag? id name = some args → conduct.FitAll checker args
  exported (checker : Checker) (file name : String) (binding : Binding) : conduct.ready checker →
    (name, binding) ∈ (checker.definitions file).entries → conduct.fits checker binding.ty
  supply (checker : Checker) (id : ClosureId) (arity : Nat) (bound args : List Ty) :
    conduct.fits checker (.function id arity bound) → conduct.FitAll checker args →
      args.length < Ty.remaining arity bound →
        conduct.fits checker (Ty.supply id arity bound args)
  /-- Scopes of arms, calls and loads. -/
  opens {checker : Checker} : conduct.ready checker → conduct.ready checker.enterScope
  enter {checker : Checker} {ty : Ty} :
    conduct.fits checker ty → conduct.fits checker.enterScope ty
  leave {checker : Checker} {ty : Ty} :
    conduct.fits checker ty → conduct.fits checker.leaveScope ty
  scope {checker after : Checker} {stop : Option Stop} :
    conduct.flow checker.enterScope stop after → conduct.flow checker stop after.leaveScope
  call (checker : Checker) (span : Span) (id : ClosureId) (arity : Nat) (bound args : List Ty) :
    conduct.marks span → conduct.fits checker (.function id arity bound) →
      conduct.FitAll checker args → args.length = Ty.remaining arity bound →
        conduct.Ends checker conduct.Fitting
          ((runClosure setup run span id (bound ++ args)).outcome checker)
  load (checker : Checker) (span : Span) (file : String) : conduct.marks span →
    checker.isOpen file = false → checker.bindings.hasDefinitions file = false →
      conduct.Ends checker (fun _ _ => True) ((loadFile setup run span file).outcome checker)

/-! ### Sequences -/

namespace Sound

variable {conduct : Conduct} {setup : Setup} {run : Runner}

theorem leads_trans (sound : conduct.Sound setup run) {first second third : Checker}
    (left : conduct.Leads first second) (right : conduct.Leads second third) :
    conduct.Leads first third :=
  ⟨left.ready, sound.trans left.flow right.flow⟩

theorem keepsAll (sound : conduct.Sound setup run) {before after : Checker} {types : List Ty}
    (flow : conduct.Leads before after) (fit : conduct.FitAll before types) :
    conduct.FitAll after types :=
  fun ty member => sound.keeps flow (fit ty member)

theorem pure (sound : conduct.Sound setup run) {checker : Checker} {answer : α}
    {good : α → Checker → Prop} (fine : good answer checker) :
    conduct.Ends checker good ((Pure.pure answer : Check α).outcome checker) :=
  fun _ => ⟨sound.still checker, fine⟩

/-- A fault of a typing rule. -/
theorem stops (sound : conduct.Sound setup run) (checker : Checker) (span : Span)
    (fault : Fault) {good : α → Checker → Prop} (marked : conduct.marks span)
    (rule : fault.isOfRule = true := by rfl) :
    conduct.Ends checker good ((fail span fault : Check α).outcome checker) :=
  fun _ => sound.fault checker span fault marked rule

/-- What follows an answer may rely on the change so far. -/
theorem continued (sound : conduct.Sound setup run) {before middle : Checker}
    {good : α → Checker → Prop} {outcome : Except Stop α × Checker}
    (flow : conduct.flow before none middle) (ends : conduct.Ends middle good outcome) :
    conduct.Ends before good outcome := by
  intro ready
  have ended := ends (sound.stays flow ready)
  obtain ⟨stop | answer, after⟩ := outcome
  · exact sound.trans flow ended
  · exact ⟨sound.trans flow ended.1, ended.2⟩

theorem bind_step (sound : conduct.Sound setup run) {step : Check α} {next : α → Check β}
    {checker : Checker} {good : α → Checker → Prop} {goal : β → Checker → Prop}
    (first : conduct.Ends checker good (step.outcome checker))
    (rest : ∀ answer after, conduct.Leads checker after → good answer after →
      conduct.Ends after goal ((next answer).outcome after)) :
    conduct.Ends checker goal ((step >>= next).outcome checker) := by
  intro ready
  have ended := first ready
  rcases result : step.outcome checker with ⟨stop | answer, after⟩
  · rw [result] at ended
    rw [Check.outcome_bind_error result]
    exact ended
  · rw [result] at ended
    rw [Check.outcome_bind_ok result]
    exact sound.continued ended.1 (rest answer after ⟨ready, ended.1⟩ ended.2) ready

/-- What follows an answer may rely on the piece that was given back with it. -/
theorem andThen_piece (sound : conduct.Sound setup run) {visit : Visit α β} {around : α → γ}
    {next : α → β → Visit γ δ} {checker : Checker} {good : β → Checker → Prop}
    {goal : δ → Checker → Prop} (first : conduct.Ends checker good (visit.outcome checker))
    (rest : ∀ found after, conduct.Leads checker after → good found after →
      conduct.Ends after goal ((next (visit checker).1.1 found).outcome after)) :
    conduct.Ends checker goal ((visit.andThen around next).outcome checker) := by
  intro ready
  have ended := first ready
  rcases result : visit checker with ⟨⟨piece, stop | found⟩, after⟩
  · rw [Visit.outcome, result] at ended
    rw [Visit.outcome, Visit.andThen_error result]
    exact ended
  · rw [Visit.outcome, result] at ended
    rw [result] at rest
    rw [Visit.outcome, Visit.andThen_ok result]
    exact sound.continued ended.1 (rest found after ⟨ready, ended.1⟩ ended.2) ready

theorem andThen (sound : conduct.Sound setup run) {visit : Visit α β} {around : α → γ}
    {next : α → β → Visit γ δ} {checker : Checker} {good : β → Checker → Prop}
    {goal : δ → Checker → Prop} (first : conduct.Ends checker good (visit.outcome checker))
    (rest : ∀ piece found after, conduct.Leads checker after → good found after →
      conduct.Ends after goal ((next piece found).outcome after)) :
    conduct.Ends checker goal ((visit.andThen around next).outcome checker) :=
  sound.andThen_piece first fun found after => rest _ found after

/-- A scope that is entered and left again. -/
theorem inScope (sound : conduct.Sound setup run) {visit : Visit α Ty} {checker : Checker}
    (ends : conduct.Ends checker.enterScope conduct.Fitting (visit.outcome checker.enterScope)) :
    conduct.Ends checker conduct.Fitting
      ((visit.between Checker.enterScope Checker.leaveScope).outcome checker) := by
  rw [Visit.outcome_between]
  intro ready
  have ended := ends (sound.opens ready)
  rcases result : visit.outcome checker.enterScope with ⟨stop | ty, after⟩
  · rw [result] at ended
    exact sound.scope ended
  · rw [result] at ended
    exact ⟨sound.scope ended.1, sound.leave ended.2⟩

/-! ### The typing rules -/

theorem recorded (sound : conduct.Sound setup run) (event : Event) (checker : Checker) :
    conduct.Ends checker (fun _ _ => True) ((CallTyping.record event).outcome checker) :=
  fun _ => ⟨sound.record checker event, trivial⟩

theorem typeOfName (sound : conduct.Sound setup run) (span : Span) (name : String)
    (checker : Checker) (marked : conduct.marks span := by exact trivial) :
    conduct.Ends checker conduct.Fitting ((typeOfName span name).outcome checker) := by
  rw [CallTyping.typeOfName, Check.outcome_bind, Check.outcome_get]
  dsimp only
  split
  next ty found =>
    exact fun ready => ⟨sound.still checker, sound.lookup checker name ty ready found⟩
  next => exact sound.stops checker span _ marked

theorem defineName (sound : conduct.Sound setup run) (toplevel : Bool) (span : Span)
    (name : String) {ty : Ty} {checker : Checker} (fit : conduct.fits checker ty) :
    conduct.Ends checker conduct.Fitting
      ((defineName toplevel span name ty).outcome checker) := by
  intro _
  cases toplevel
  · exact ⟨sound.bind checker name ty span fit, sound.unit _⟩
  · exact ⟨sound.define checker name ty span fit, sound.unit _⟩

theorem noteInlay (sound : conduct.Sound setup run) (span : Span) {ty : Ty} {checker : Checker}
    (fit : conduct.fits checker ty) :
    conduct.Ends checker conduct.Fitting ((noteInlay span ty).outcome checker) := by
  intro ready
  have recorded := sound.record checker (.inlay checker.file span (checker.heap.text ty))
  have inlaid := sound.inlay _ span ty (sound.keeps ⟨ready, recorded⟩ fit)
  exact ⟨sound.trans recorded inlaid, sound.unit _⟩

theorem joinTypes (sound : conduct.Sound setup run) (reason : String) (span : Span)
    {expected found : Ty} {checker : Checker} (fitsExpected : conduct.fits checker expected)
    (fitsFound : conduct.fits checker found)
    (marked : conduct.marks span := by exact trivial) :
    conduct.Ends checker conduct.Fitting
      ((joinTypes reason span expected found).outcome checker) := by
  rw [CallTyping.joinTypes, Check.outcome_bind, Check.outcome_get]
  dsimp only
  split
  next ty grown joined =>
    intro ready
    have flow := sound.join checker expected found ty grown fitsExpected fitsFound joined
    obtain ⟨rfl, -⟩ := Heap.join_cases joined
    exact ⟨flow, sound.keeps ⟨ready, flow⟩ fitsExpected⟩
  next => exact sound.stops checker span _ marked

theorem expectBool (sound : conduct.Sound setup run) (span : Span) (ty : Ty)
    (checker : Checker) (marked : conduct.marks span := by exact trivial) :
    conduct.Ends checker (fun _ _ => True) ((expectBool span ty).outcome checker) := by
  unfold CallTyping.expectBool
  split
  · exact sound.pure trivial
  · exact sound.stops checker span _ marked

theorem typeOfConditional (sound : conduct.Sound setup run) (span conditionSpan : Span)
    (condition : Ty) {body alternative : Ty} {checker : Checker}
    (fitsBody : conduct.fits checker body) (fitsAlternative : conduct.fits checker alternative)
    (marked : conduct.marks span := by exact trivial)
    (markedCondition : conduct.marks conditionSpan := by exact trivial) :
    conduct.Ends checker conduct.Fitting
      ((typeOfConditional span conditionSpan condition body alternative).outcome checker) :=
  sound.bind_step (sound.expectBool conditionSpan condition checker markedCondition)
    fun _ _ flow _ =>
      sound.joinTypes _ span (sound.keeps flow fitsBody) (sound.keeps flow fitsAlternative) marked

theorem newObject (sound : conduct.Sound setup run) {fields : List (String × Ty)}
    {checker : Checker} (fit : ∀ field ∈ fields, conduct.fits checker field.2) :
    conduct.Ends checker conduct.Fitting ((newObject fields).outcome checker) :=
  fun _ => sound.object checker fields fit

theorem newVariant (sound : conduct.Sound setup run) (tag : String) {args : List Ty}
    {checker : Checker} (fit : conduct.FitAll checker args) :
    conduct.Ends checker conduct.Fitting ((newVariant tag args).outcome checker) :=
  fun _ => sound.variant checker tag args fit

/-- An object that is expected is the type itself. -/
theorem expectObject (sound : conduct.Sound setup run) (span : Span) (ty : Ty)
    (checker : Checker) (marked : conduct.marks span := by exact trivial) :
    conduct.Ends checker (fun id after => ty = .object id ∧ after = checker)
      ((expectObject span ty).outcome checker) := by
  cases ty with
  | object id => exact sound.pure ⟨rfl, rfl⟩
  | _ => exact sound.stops checker span _ marked

theorem typeOfField (sound : conduct.Sound setup run) (span : Span) {ty : Ty} (name : String)
    {checker : Checker} (fit : conduct.fits checker ty)
    (marked : conduct.marks span := by exact trivial) :
    conduct.Ends checker conduct.Fitting ((typeOfField span ty name).outcome checker) := by
  refine sound.bind_step (sound.expectObject span ty checker marked) ?_
  rintro id after - ⟨rfl, rfl⟩
  rw [Check.outcome_bind, Check.outcome_get]
  dsimp only
  split
  next found present =>
    exact fun ready => ⟨sound.still after, sound.field after id name found ready fit present⟩
  next => exact sound.stops after span _ marked

/-- An update of a name joins types, and leaves the name to the type that it has. -/
theorem updateVariable (sound : conduct.Sound setup run) (span valueSpan : Span) (name : String)
    {new : Ty} {checker : Checker} (fit : conduct.fits checker new)
    (marked : conduct.marks span := by exact trivial)
    (markedValue : conduct.marks valueSpan := by exact trivial) :
    conduct.Ends checker conduct.Fitting
      ((updateVariable span valueSpan name new).outcome checker) := by
  rw [Check.outcome_updateVariable]
  exact sound.bind_step (sound.typeOfName span name checker marked) fun old after flow fitsOld =>
    sound.joinTypes _ valueSpan fitsOld (sound.keeps flow fit) markedValue

theorem updateField (sound : conduct.Sound setup run) (objectSpan valueSpan : Span) {ty : Ty}
    (field : String) {new : Ty} {checker : Checker} (fitsTarget : conduct.fits checker ty)
    (fit : conduct.fits checker new) (marked : conduct.marks objectSpan := by exact trivial)
    (markedValue : conduct.marks valueSpan := by exact trivial) :
    conduct.Ends checker conduct.Fitting
      ((updateField objectSpan valueSpan ty field new).outcome checker) := by
  rw [Check.outcome_updateField]
  refine sound.bind_step (sound.expectObject objectSpan ty checker marked) ?_
  rintro id after - ⟨rfl, rfl⟩
  cases present : after.heap.field? id field with
  | some old =>
    refine Ends.of_ready fun ready => ?_
    exact sound.joinTypes _ valueSpan (sound.field after id field old ready fitsTarget present) fit
      markedValue
  | none =>
    intro ready
    have flow := sound.addField after id field new fitsTarget fit present
    exact ⟨flow, sound.keeps ⟨ready, flow⟩ fit⟩

theorem expectKind (sound : conduct.Sound setup run) (span : Span) (expected : Kind) (ty : Ty)
    (checker : Checker) (marked : conduct.marks span := by exact trivial) :
    conduct.Ends checker (fun _ _ => True) ((expectKind span expected ty).outcome checker) := by
  unfold CallTyping.expectKind
  split
  · exact sound.pure trivial
  · exact sound.stops checker span _ marked

theorem annotatedField (sound : conduct.Sound setup run) (span : Span) (ty : Ty)
    (field : String) (checker : Checker) (marked : conduct.marks span := by exact trivial) :
    conduct.Ends checker (fun _ _ => True) ((annotatedField span ty field).outcome checker) := by
  cases ty with
  | object id =>
    rw [CallTyping.annotatedField, Check.outcome_bind, Check.outcome_get]
    dsimp only
    split
    · exact sound.pure trivial
    · exact sound.stops checker span _ marked
  | _ => exact sound.stops checker span _ marked

mutual

theorem assertType (sound : conduct.Sound setup run) (annotations : Annotations) (span : Span)
    (ty : Ty) (checker : Checker) : (described : Node) →
    (marked : conduct.marks span := by exact trivial) →
    (admitted : conduct.Admits described.preorder := by
      exact fun _ _ => ⟨trivial, fun _ _ => trivial⟩) →
    conduct.Ends checker (fun _ _ => True)
      ((assertType annotations span ty described).outcome checker)
  | .mk _ _ (.object fields), marked, admitted => by
    rw [CallTyping.assertType]
    simp only [Node.preorder, admits_cons] at admitted
    exact sound.bind_step (sound.expectKind span .object ty checker marked) fun _ after _ _ =>
      assertFields sound annotations span ty after fields marked admitted.2
  | .mk place _ (.ident name), marked, admitted => by
    rw [CallTyping.assertType]
    split
    · exact sound.expectKind span _ ty checker marked
    · exact sound.stops checker place _ admitted.marked
  | .mk place _ (.literal _), _, admitted | .mk place _ (.call _), _, admitted
  | .mk place _ (.block _ _), _, admitted | .mk place _ (.ifThen _ _), _, admitted
  | .mk place _ (.ifThenElse _ _ _), _, admitted | .mk place _ (.whileLoop _ _), _, admitted
  | .mk place _ (.caseOf _ _), _, admitted | .mk place _ (.dot _ _), _, admitted
  | .mk place _ (.update _ _), _, admitted | .mk place _ (.assertion _ _), _, admitted
  | .mk place _ (.variant _ _), _, admitted | .mk place _ (.define _ _), _, admitted
  | .mk place _ (.require _), _, admitted | .mk place _ (.inlay _), _, admitted =>
    sound.stops checker place _ admitted.marked

theorem assertFields (sound : conduct.Sound setup run) (annotations : Annotations) (span : Span)
    (ty : Ty) (checker : Checker) : (fields : List Field) → conduct.marks span →
    conduct.Admits (preorderFields fields) →
    conduct.Ends checker (fun _ _ => True)
      ((assertFields annotations span ty fields).outcome checker)
  | [], _, _ => sound.pure trivial
  | .mk name annotation :: rest, marked, admitted => by
    rw [CallTyping.assertFields]
    obtain ⟨inFirst, inRest⟩ := admits_append.mp admitted
    exact sound.bind_step (sound.annotatedField span ty name checker marked) fun found after _ _ =>
      sound.bind_step (assertType sound annotations span found after annotation marked inFirst)
        fun _ later _ _ => assertFields sound annotations span ty later rest marked inRest

end

/-! ### Matches and blocks -/

theorem expectVariant (sound : conduct.Sound setup run) (span : Span) (ty : Ty)
    (checker : Checker) (marked : conduct.marks span := by exact trivial) :
    conduct.Ends checker (fun id after => ty = .variant id ∧ after = checker)
      ((expectVariant span ty).outcome checker) := by
  cases ty with
  | variant id => exact sound.pure ⟨rfl, rfl⟩
  | _ => exact sound.stops checker span _ marked

theorem selectArm (sound : conduct.Sound setup run) (unknown : UnknownArms) {id : VariantId}
    {checker : Checker} (fit : conduct.fits checker (.variant id)) (arm : Arm)
    (marked : conduct.marks arm.span := by exact trivial) :
    conduct.Ends checker (fun choice after => ∀ types ∈ choice, conduct.FitAll after types)
      ((selectArm unknown id arm).outcome checker) := by
  obtain ⟨span, tag, args, body⟩ := arm
  rw [CallTyping.selectArm, Check.outcome_bind, Check.outcome_get]
  dsimp only
  split
  next expected known =>
    split
    · refine fun ready => ⟨sound.still checker, fun types chosen => ?_⟩
      cases chosen
      exact sound.tag checker id tag expected ready fit known
    · exact sound.stops checker span _ marked
  next =>
    cases unknown with
    | skip => exact fun _ => ⟨sound.record checker _, fun _ chosen => by cases chosen⟩
    | reject => exact sound.stops checker span _ marked

theorem selectArms (sound : conduct.Sound setup run) (unknown : UnknownArms) {id : VariantId}
    (arms : List Arm) {checker : Checker} (fit : conduct.fits checker (.variant id))
    (marked : ∀ arm ∈ arms, conduct.marks arm.span := by exact fun _ _ => trivial) :
    conduct.Ends checker (fun choices after => conduct.FitChoices after choices)
      ((selectArms unknown id arms).outcome checker) := by
  induction arms generalizing checker with
  | nil => exact sound.pure (by simp [FitChoices])
  | cons arm rest inductionHypothesis =>
    rw [CallTyping.selectArms]
    obtain ⟨markedArm, markedRest⟩ := List.forall_mem_cons.mp marked
    refine sound.bind_step (sound.selectArm unknown fit arm markedArm)
      fun choice after flow chosen => ?_
    refine sound.bind_step (inductionHypothesis (sound.keeps flow fit) markedRest)
      fun choices later flow' fitChoices => sound.pure ?_
    intro other member types chosen'
    rcases List.mem_cons.mp member with rfl | member
    · exact sound.keepsAll flow' (chosen types chosen')
    · exact fitChoices other member types chosen'

theorem chooseArms (sound : conduct.Sound setup run) (unknown : UnknownArms) (span : Span)
    (arms : List Arm) {ty : Ty} {checker : Checker} (fit : conduct.fits checker ty)
    (marked : conduct.marks span := by exact trivial)
    (markedArms : ∀ arm ∈ arms, conduct.marks arm.span := by exact fun _ _ => trivial) :
    conduct.Ends checker (fun choices after => conduct.FitChoices after choices)
      ((CallTyping.expectVariant span ty >>= fun id =>
        CallTyping.selectArms unknown id arms).outcome checker) := by
  refine sound.bind_step (sound.expectVariant span ty checker marked) ?_
  rintro id _ - ⟨rfl, rfl⟩
  exact sound.selectArms unknown arms fit markedArms

theorem bindPattern (sound : conduct.Sound setup run) (args : List Node) (types : List Ty) :
    ∀ checker, conduct.FitAll checker types →
      (admitted : conduct.Admits (preorderNodes args) := by
        exact fun _ _ => ⟨trivial, fun _ _ => trivial⟩) →
      conduct.Ends checker (fun _ _ => True) ((bindPattern args types).outcome checker) := by
  fun_induction CallTyping.bindPattern args types with
  | case1 span slot name rest ty types inductionHypothesis =>
    intro checker fit admitted
    simp only [preorderNodes, Node.preorder, List.cons_append, admits_cons, admits_append]
      at admitted
    obtain ⟨own, -, later⟩ := admitted
    cases slot with
    | some old =>
      exact fun _ => sound.refilled checker span old ty (own.2 _ List.mem_cons_self) own.1
    | none =>
      intro ready
      have bound := sound.bind checker name ty span (fit ty List.mem_cons_self)
      have others : conduct.FitAll checker types := fun ty member =>
        fit ty (List.mem_cons_of_mem _ member)
      exact sound.continued bound
        (inductionHypothesis rest _ (sound.keepsAll ⟨ready, bound⟩ others) later) ready
  | case2 arg rest ty types notName =>
    intro checker _ admitted
    exact sound.stops checker arg.span _ (admits_append.mp admitted).1.marked
  | case3 args types notBoth =>
    intro checker _ _
    exact sound.pure trivial

theorem joinArm (sound : conduct.Sound setup run) (span : Span) {previous : Option Ty} {ty : Ty}
    {checker : Checker} (fitsPrevious : ∀ expected ∈ previous, conduct.fits checker expected)
    (fit : conduct.fits checker ty) (marked : conduct.marks span := by exact trivial) :
    conduct.Ends checker conduct.Fitting ((joinArm span previous ty).outcome checker) := by
  cases previous with
  | none => exact sound.pure fit
  | some expected => exact sound.joinTypes matchReason span (fitsPrevious expected rfl) fit marked

theorem typeOfMatch (sound : conduct.Sound setup run) (span : Span) (scrutinee : Ty)
    {arms : Option Ty} {checker : Checker} (fit : ∀ ty ∈ arms, conduct.fits checker ty)
    (marked : conduct.marks span := by exact trivial) :
    conduct.Ends checker conduct.Fitting ((typeOfMatch span scrutinee arms).outcome checker) := by
  cases arms with
  | none => exact sound.stops checker span _ marked
  | some ty => exact sound.pure (fit ty rfl)

theorem typeOfBlock (sound : conduct.Sound setup run) (span : Span) (params : List String)
    (body : Program) (checker : Checker)
    (marked : ∀ place ∈ body.places, conduct.marks place := by exact fun _ _ => trivial) :
    conduct.Ends checker conduct.Fitting ((typeOfBlock span params body).outcome checker) :=
  fun _ => sound.block checker params body span marked

/-! ### Calls and requires -/

theorem applyFunction (sound : conduct.Sound setup run) (span calleeSpan : Span) {callee : Ty}
    {args : List Ty} {checker : Checker} (fitsCallee : conduct.fits checker callee)
    (fitsArgs : conduct.FitAll checker args) (marked : conduct.marks span := by exact trivial)
    (markedCallee : conduct.marks calleeSpan := by exact trivial) :
    conduct.Ends checker conduct.Fitting
      ((applyFunction setup run span calleeSpan callee args).outcome checker) := by
  cases callee with
  | function id arity bound =>
    rw [CallTyping.applyFunction]
    split
    next fewer =>
      exact sound.pure (sound.supply checker id arity bound args fitsCallee fitsArgs fewer)
    next =>
      split
      next all => exact sound.call checker span id arity bound args marked fitsCallee fitsArgs all
      next =>
        split
        next nullary =>
          have called := sound.call checker span id arity bound [] marked fitsCallee
            (fun ty member => absurd member List.not_mem_nil) nullary.1.symm
          rwa [List.append_nil] at called
        next => exact sound.stops checker calleeSpan _ markedCallee
  | _ => exact sound.stops checker calleeSpan _ markedCallee

theorem typeOfCall (sound : conduct.Sound setup run) (span calleeSpan : Span) {types : List Ty}
    {checker : Checker} (fit : conduct.FitAll checker types)
    (marked : conduct.marks span := by exact trivial)
    (markedCallee : conduct.marks calleeSpan := by exact trivial) :
    conduct.Ends checker conduct.Fitting
      ((typeOfCall setup run span calleeSpan types).outcome checker) := by
  match types, fit with
  | [], _ => exact sound.pure (sound.unit checker)
  | [ty], fit => exact sound.pure (fit ty List.mem_cons_self)
  | callee :: arg :: args, fit =>
    exact sound.applyFunction span calleeSpan (fit callee List.mem_cons_self)
      (fun ty member => fit ty (List.mem_cons_of_mem _ member)) marked markedCallee

theorem exposeFile (sound : conduct.Sound setup run) (span : Span) (name file : String)
    (checker : Checker) (marked : conduct.marks span := by exact trivial) :
    conduct.Ends checker conduct.Fitting ((exposeFile span name file).outcome checker) := by
  rw [CallTyping.exposeFile, Check.outcome_bind, Check.outcome_get]
  dsimp only
  split
  · exact sound.stops checker span _ marked
  · refine Ends.of_ready fun ready => ?_
    refine sound.bind_step (sound.newObject fun field member => ?_) fun ty after _ fit => ?_
    · obtain ⟨entry, known, rfl⟩ := List.mem_map.mp member
      exact sound.exported checker file entry.1 entry.2 ready known
    · exact sound.bind_step (sound.defineName true span name fit)
        fun _ _ flow _ => sound.pure (sound.keeps flow fit)

theorem typeOfRequire (sound : conduct.Sound setup run) (span : Span) (name : String)
    (checker : Checker) (marked : conduct.marks span := by exact trivial) :
    conduct.Ends checker conduct.Fitting
      ((typeOfRequire setup run span name).outcome checker) := by
  rw [CallTyping.typeOfRequire, Check.outcome_bind, Check.outcome_get]
  dsimp only
  split
  · exact sound.stops checker span _ marked
  next closed =>
    split
    · exact sound.continued (sound.record checker _) (sound.exposeFile span name _ _ marked)
    next unknown =>
      exact sound.bind_step
        (sound.load checker span _ marked (by simpa using closed) (by simpa using unknown))
        fun _ after _ _ => sound.exposeFile span name _ after marked

/-! ### The pass over a tree -/

theorem assign (sound : conduct.Sound setup run) {span : Span} {slot : Option Ty} {expr : Expr}
    {step : Check Ty} {checker : Checker}
    (ends : conduct.Ends checker conduct.Fitting (step.outcome checker))
    (admitted : conduct.admits slot := by exact trivial)
    (marked : conduct.marks span := by exact trivial) :
    conduct.Ends checker conduct.Fitting
      ((Visit.assign (.mk span slot expr) step).outcome checker) := by
  intro ready
  have ended := ends ready
  rcases result : step.outcome checker with ⟨stop | ty, after⟩
  · rw [result] at ended
    have stopped : Visit.settle (Node.mk span slot expr) step checker =
        ((.mk span slot expr, .error stop), after) := by rw [Visit.settle_eq, result]
    rw [Visit.outcome, Visit.assign, Visit.andThen_error stopped]
    exact ended
  · rw [result] at ended
    have done : Visit.settle (Node.mk span slot expr) step checker =
        ((.mk span slot expr, .ok ty), after) := by rw [Visit.settle_eq, result]
    rw [Visit.outcome, Visit.assign, Visit.andThen_ok done]
    cases slot with
    | none => exact ended
    | some old => exact sound.trans ended.1 (sound.refilled after span old ty marked admitted)

/-- The type of a body may be met when the types of its statements may. -/
theorem fits_ofBody (sound : conduct.Sound setup run) {checker : Checker} {types : List Ty}
    (fit : conduct.FitAll checker types) : conduct.fits checker (Ty.ofBody types) := by
  unfold Ty.ofBody
  cases last : types.getLast? with
  | none => exact sound.unit checker
  | some ty => exact fit ty (List.mem_of_getLast? last)

/-- A pass leaves nodes in their places. -/
theorem span_visitNode (setup : Setup) (run : Runner) (toplevel : Bool) (checker : Checker)
    (node : Node) : (CallTyping.visitNode setup run toplevel node checker).1.1.span =
      node.span := by
  obtain ⟨span, slot, expr⟩ := node
  unfold CallTyping.visitNode
  rw [Visit.andThen_ok (Visit.settle_eq _ _ _)]
  cases slot <;> rfl

theorem calleeSpan_visitNodes (setup : Setup) (run : Runner) (toplevel : Bool) (checker : Checker)
    (node : Node) (rest : List Node) :
    calleeSpan (CallTyping.visitNodes setup run toplevel (node :: rest) checker).1.1 =
      node.span := by
  have place := span_visitNode setup run toplevel checker node
  rw [CallTyping.visitNodes]
  rcases first : CallTyping.visitNode setup run toplevel node checker with
    ⟨⟨piece, stop | ty⟩, after⟩
  · rw [first] at place
    rw [Visit.andThen_error first]
    exact place
  · rw [first] at place
    rw [Visit.andThen_ok first]
    rcases others : CallTyping.visitNodes setup run toplevel rest after with
      ⟨⟨pieces, stop | types⟩, later⟩
    · rw [Visit.andThen_error others]
      exact place
    · rw [Visit.andThen_ok others]
      exact place

mutual

theorem visitNode (sound : conduct.Sound setup run) (toplevel : Bool) (checker : Checker) :
    (node : Node) → (admitted : conduct.Admits node.preorder := by
      exact fun _ _ => ⟨trivial, fun _ _ => trivial⟩) →
    conduct.Ends checker conduct.Fitting ((visitNode setup run toplevel node).outcome checker)
  | .mk span slot expr, admitted => by
    unfold CallTyping.visitNode
    simp only [Node.preorder, admits_cons] at admitted
    obtain ⟨⟨own, marked⟩, inside⟩ := admitted
    refine sound.andThen (sound.recorded _ checker) fun _ _ after _ _ => ?_
    cases slot with
    | some ty => exact fun _ => sound.refilled after span ty ty (marked _ List.mem_cons_self) own
    | none => exact visitExpr sound toplevel span after expr marked inside

theorem visitExpr (sound : conduct.Sound setup run) (toplevel : Bool) (span : Span)
    (checker : Checker) : (expr : Expr) →
    (∀ place ∈ span :: expr.armSpans, conduct.marks place) → conduct.Admits expr.preorder →
    conduct.Ends checker conduct.Fitting
      ((visitExpr setup run toplevel span expr).outcome checker)
  | .ident name, marked, _ => by
    rw [CallTyping.visitExpr]
    exact sound.typeOfName span name checker (marked _ List.mem_cons_self)
  | .literal value, _, _ => by
    rw [CallTyping.visitExpr]
    exact sound.pure (sound.literal checker value)
  | .call [], _, _ => by
    rw [CallTyping.visitExpr, CallTyping.visitNodes]
    exact sound.pure (sound.unit checker)
  | .call (callee :: args), marked, admitted => by
    rw [CallTyping.visitExpr]
    refine sound.andThen_piece (visitNodes sound false checker (callee :: args) admitted)
      fun _ _ _ fit => ?_
    rw [calleeSpan_visitNodes]
    exact sound.typeOfCall span _ fit (marked _ List.mem_cons_self)
      (admits_append.mp admitted).1.marked
  | .block params body, _, admitted => by
    rw [CallTyping.visitExpr]
    exact sound.typeOfBlock span params body checker (Admits.places admitted)
  | .ifThen condition body, _, admitted => by
    rw [CallTyping.visitExpr]
    obtain ⟨inCondition, inBody⟩ := admits_append.mp admitted
    refine sound.andThen_piece (visitNode sound false checker condition inCondition)
      fun conditionTy after _ _ => ?_
    refine sound.andThen (visitNodes sound false after body inBody) fun _ _ later _ _ => ?_
    rw [span_visitNode]
    exact sound.bind_step (sound.expectBool condition.span conditionTy later inCondition.marked)
      fun _ last _ _ => sound.pure (sound.unit last)
  | .ifThenElse condition body alternative, marked, admitted => by
    rw [CallTyping.visitExpr]
    obtain ⟨inBoth, inAlternative⟩ := admits_append.mp admitted
    obtain ⟨inCondition, inBody⟩ := admits_append.mp inBoth
    refine sound.andThen_piece (visitNode sound false checker condition inCondition)
      fun _ after _ _ => ?_
    refine sound.andThen (visitNodes sound false after body inBody) fun _ types later _ fit => ?_
    refine sound.andThen (visitNodes sound false later alternative inAlternative)
      fun _ _ _ flow fitOther => ?_
    rw [span_visitNode]
    exact sound.typeOfConditional span _ _ (sound.keeps flow (sound.fits_ofBody fit))
      (sound.fits_ofBody fitOther) (marked _ List.mem_cons_self) inCondition.marked
  | .whileLoop condition body, _, admitted => by
    rw [CallTyping.visitExpr]
    obtain ⟨inCondition, inBody⟩ := admits_append.mp admitted
    refine sound.andThen (visitNode sound false checker condition inCondition)
      fun _ _ after _ _ => ?_
    exact sound.andThen (visitNodes sound false after body inBody) fun _ _ later _ _ =>
      sound.pure (sound.unit later)
  | .caseOf scrutinee arms, marked, admitted => by
    rw [CallTyping.visitExpr]
    obtain ⟨inScrutinee, inArms⟩ := admits_append.mp admitted
    obtain ⟨markedMatch, markedArms⟩ := List.forall_mem_cons.mp marked
    refine sound.andThen_piece (visitNode sound false checker scrutinee inScrutinee)
      fun ty after _ fit => ?_
    rw [span_visitNode]
    refine sound.andThen (sound.chooseArms _ scrutinee.span arms fit inScrutinee.marked
      fun arm member => markedArms _ (List.mem_map_of_mem member))
      fun _ choices later _ fitChoices => ?_
    exact sound.andThen (visitArms sound span later arms choices none markedMatch inArms fitChoices
      (by simp)) fun _ _ _ _ fitResult => sound.typeOfMatch span ty fitResult markedMatch
  | .dot target field, _, admitted => by
    rw [CallTyping.visitExpr]
    refine sound.andThen_piece (visitNode sound false checker target admitted) fun _ _ _ fit => ?_
    rw [span_visitNode]
    exact sound.typeOfField _ field fit (Admits.marked admitted)
  | .update target value, _, admitted => by
    rw [CallTyping.visitExpr]
    obtain ⟨inTarget, inValue⟩ := admits_append.mp admitted
    refine sound.andThen_piece (visitNode sound false checker value inValue)
      fun ty after _ fit => ?_
    rw [span_visitNode]
    exact visitTarget sound value.span ty after fit target inValue.marked inTarget
  | .assertion value described, _, admitted => by
    rw [CallTyping.visitExpr]
    obtain ⟨inValue, inDescribed⟩ := admits_append.mp admitted
    refine sound.andThen_piece (visitNode sound false checker value inValue)
      fun ty after _ fit => ?_
    rw [span_visitNode]
    exact sound.bind_step (sound.assertType setup.annotations value.span ty after described
      inValue.marked inDescribed) fun _ _ flow _ => sound.pure (sound.keeps flow fit)
  | .object fields, _, admitted => by
    rw [CallTyping.visitExpr]
    exact sound.andThen (visitFields sound checker fields admitted) fun _ _ _ _ fit =>
      sound.newObject fit
  | .variant tag args, _, admitted => by
    rw [CallTyping.visitExpr]
    exact sound.andThen (visitNodes sound false checker args admitted) fun _ _ _ _ fit =>
      sound.newVariant tag fit
  | .define name value, _, admitted => by
    rw [CallTyping.visitExpr]
    exact sound.andThen (visitNode sound false checker value admitted) fun _ _ _ _ fit =>
      sound.defineName toplevel span name fit
  | .require name, marked, _ => by
    rw [CallTyping.visitExpr]
    exact sound.typeOfRequire span name checker (marked _ List.mem_cons_self)
  | .inlay inner, _, admitted => by
    rw [CallTyping.visitExpr]
    exact sound.andThen (visitNode sound false checker inner admitted) fun _ _ _ _ fit =>
      sound.noteInlay span fit

theorem visitTarget (sound : conduct.Sound setup run) (valueSpan : Span) (new : Ty)
    (checker : Checker) (fit : conduct.fits checker new) : (target : Node) →
    (markedValue : conduct.marks valueSpan := by exact trivial) →
    (admitted : conduct.Admits target.preorder := by
      exact fun _ _ => ⟨trivial, fun _ _ => trivial⟩) →
    conduct.Ends checker conduct.Fitting
      ((visitTarget setup run valueSpan new target).outcome checker)
  | .mk span slot (.ident name), markedValue, admitted => by
    rw [CallTyping.visitTarget]
    have marked := admitted.marked
    simp only [Node.preorder, admits_cons] at admitted
    exact sound.assign (sound.updateVariable span valueSpan name fit marked markedValue)
      admitted.1.1 marked
  | .mk span slot (.dot base field), markedValue, admitted => by
    rw [CallTyping.visitTarget]
    have marked := admitted.marked
    simp only [Node.preorder, admits_cons] at admitted
    split
    · refine sound.andThen_piece (visitNode sound false checker base admitted.2)
        fun ty after flow fitsBase => ?_
      rw [span_visitNode]
      exact sound.assign (sound.updateField base.span valueSpan field fitsBase
        (sound.keeps flow fit) (Admits.marked admitted.2) markedValue) admitted.1.1 marked
    · exact sound.stops checker span _ marked
  | .mk span _ (.literal _), _, admitted | .mk span _ (.call _), _, admitted
  | .mk span _ (.block _ _), _, admitted | .mk span _ (.ifThen _ _), _, admitted
  | .mk span _ (.ifThenElse _ _ _), _, admitted | .mk span _ (.whileLoop _ _), _, admitted
  | .mk span _ (.caseOf _ _), _, admitted | .mk span _ (.update _ _), _, admitted
  | .mk span _ (.assertion _ _), _, admitted | .mk span _ (.object _), _, admitted
  | .mk span _ (.variant _ _), _, admitted | .mk span _ (.define _ _), _, admitted
  | .mk span _ (.require _), _, admitted | .mk span _ (.inlay _), _, admitted =>
    sound.stops checker span _ admitted.marked

theorem visitNodes (sound : conduct.Sound setup run) (toplevel : Bool) (checker : Checker) :
    (nodes : List Node) →
    (admitted : conduct.Admits (preorderNodes nodes) := by
      exact fun _ _ => ⟨trivial, fun _ _ => trivial⟩) →
    conduct.Ends checker (fun types => (conduct.FitAll · types))
      ((visitNodes setup run toplevel nodes).outcome checker)
  | [], _ => by
    rw [CallTyping.visitNodes]
    exact sound.pure (by simp [FitAll])
  | node :: rest, admitted => by
    rw [CallTyping.visitNodes]
    obtain ⟨inNode, inRest⟩ := admits_append.mp admitted
    refine sound.andThen (visitNode sound toplevel checker node inNode) fun _ ty after _ fit => ?_
    refine sound.andThen (visitNodes sound toplevel after rest inRest)
      fun _ types later flow fits => ?_
    exact sound.pure (List.forall_mem_cons.mpr ⟨sound.keeps flow fit, fits⟩)

theorem visitFields (sound : conduct.Sound setup run) (checker : Checker) :
    (fields : List Field) → conduct.Admits (preorderFields fields) →
    conduct.Ends checker (fun types after => ∀ field ∈ types, conduct.fits after field.2)
      ((visitFields setup run fields).outcome checker)
  | [], _ => by
    rw [CallTyping.visitFields]
    exact sound.pure (by simp)
  | .mk name value :: rest, admitted => by
    rw [CallTyping.visitFields]
    obtain ⟨inValue, inRest⟩ := admits_append.mp admitted
    refine sound.andThen (visitNode sound false checker value inValue) fun _ ty after _ fit => ?_
    refine sound.andThen (visitFields sound after rest inRest) fun _ types later flow fits => ?_
    exact sound.pure (List.forall_mem_cons.mpr ⟨sound.keeps flow fit, fits⟩)

theorem visitArms (sound : conduct.Sound setup run) (span : Span) (checker : Checker) :
    (arms : List Arm) → (choices : List (Option (List Ty))) → (previous : Option Ty) →
    conduct.marks span → conduct.Admits (preorderArms arms) → conduct.FitChoices checker choices →
    (∀ ty ∈ previous, conduct.fits checker ty) →
    conduct.Ends checker (fun result after => ∀ ty ∈ result, conduct.fits after ty)
      ((visitArms setup run span arms choices previous).outcome checker)
  | arm :: rest, some expected :: choices, previous, marked, admitted, fitChoices,
      fitsPrevious => by
    rw [CallTyping.visitArms]
    obtain ⟨inArm, inRest⟩ := admits_append.mp admitted
    refine sound.andThen (visitArm sound checker expected
      (fitChoices _ List.mem_cons_self expected rfl) arm inArm) fun _ ty after flow fit => ?_
    refine sound.andThen (sound.joinArm span (fun other member =>
      sound.keeps flow (fitsPrevious other member)) fit marked)
      fun _ joined later flow' fitsJoined => ?_
    refine visitArms sound span later rest choices (some joined) marked inRest ?_
      fun ty member => Option.mem_some.mp member ▸ fitsJoined
    intro choice member types chosen
    exact sound.keepsAll (sound.leads_trans flow flow')
      (fitChoices choice (List.mem_cons_of_mem _ member) types chosen)
  | arm :: rest, none :: choices, previous, marked, admitted, fitChoices, fitsPrevious => by
    rw [CallTyping.visitArms]
    exact visitArms sound span checker rest choices previous marked (admits_append.mp admitted).2
      (fun choice member => fitChoices choice (List.mem_cons_of_mem _ member)) fitsPrevious
  | [], _, previous, _, _, _, fitsPrevious | _ :: _, [], previous, _, _, _, fitsPrevious => by
    unfold CallTyping.visitArms
    exact sound.pure fitsPrevious

theorem visitArm (sound : conduct.Sound setup run) (checker : Checker) (expected : List Ty)
    (fit : conduct.FitAll checker expected) : (arm : Arm) → conduct.Admits arm.preorder →
    conduct.Ends checker conduct.Fitting ((visitArm setup run expected arm).outcome checker)
  | .mk span tag args body, admitted => by
    rw [CallTyping.visitArm]
    obtain ⟨inArgs, inBody⟩ := admits_append.mp admitted
    refine sound.inScope ?_
    refine sound.andThen (sound.bindPattern args expected _ (fun ty member =>
      sound.enter (fit ty member)) inArgs) fun _ _ after _ _ => ?_
    exact sound.andThen (visitNodes sound false after body inBody) fun _ _ _ _ fits =>
      sound.pure (sound.fits_ofBody fits)

end

end Sound

/-! ### Conduct that says nothing about types -/

/-- The conduct that consists of changes of the state alone, for all states and trees. -/
def ofFlow (flow : Checker → Option Stop → Checker → Prop) : Conduct :=
  ⟨fun _ => True, fun _ => True, flow, fun _ _ => True, fun _ => True⟩

end Conduct

/-- The single actions of a pass, and all that leads out of a tree, change the state so. -/
structure Flow (flow : Checker → Option Stop → Checker → Prop) (setup : Setup) (run : Runner) :
    Prop where
  still (checker : Checker) : flow checker none checker
  trans {first second third : Checker} {stop : Option Stop} :
    flow first none second → flow second stop third → flow first stop third
  fault (checker : Checker) (span : Span) (fault : Fault)
    (rule : fault.isOfCall = false := by rfl) :
    flow checker (some (.fault ⟨checker.file, span, fault⟩)) checker
  record (checker : Checker) (event : Event) :
    flow checker none { checker with log := checker.log.push event }
  inlay (checker : Checker) (span : Span) (ty : Ty) :
    flow checker none { checker with inlays := checker.inlays.push ⟨checker.file, span, ty⟩ }
  bind (checker : Checker) (name : String) (ty : Ty) (span : Span) :
    flow checker none { checker with bindings := checker.bindings.bind name ⟨ty, span⟩ }
  define (checker : Checker) (name : String) (ty : Ty) (span : Span) :
    flow checker none
      { checker with bindings := checker.bindings.define checker.file name ⟨ty, span⟩ }
  block (checker : Checker) (params : List String) (body : Program) (span : Span) :
    flow checker none (Conduct.remembered checker
      ⟨params, body.fresh, span, checker.file, checker.bindings.scopes⟩)
  join (checker : Checker) (left right ty : Ty) (grown : Heap) :
    checker.heap.join left right = some (ty, grown) →
      flow checker none { checker with heap := grown }
  object (checker : Checker) (fields : Fields) :
    flow checker none { checker with heap := (checker.heap.newObject fields).2 }
  variant (checker : Checker) (tags : Tags) :
    flow checker none { checker with heap := (checker.heap.newVariant tags).2 }
  addField (checker : Checker) (id : ObjectId) (name : String) (ty : Ty) :
    checker.heap.field? id name = none →
      flow checker none { checker with heap := checker.heap.setField id name ty }
  scope {checker after : Checker} {stop : Option Stop} :
    flow checker.enterScope stop after → flow checker stop after.leaveScope
  call {checker : Checker} {span : Span} {id : ClosureId} {args : List Ty}
    {outcome : Except Stop Ty × Checker} : CallEnds setup run span id args checker outcome →
      flow checker (stopOf outcome.1) outcome.2
  load {checker : Checker} {span : Span} {file : String} {outcome : Except Stop Unit × Checker} :
    checker.isOpen file = false → checker.bindings.hasDefinitions file = false →
      LoadEnds setup run span file checker outcome → flow checker (stopOf outcome.1) outcome.2

namespace Flow

variable {α β : Type} {flow : Checker → Option Stop → Checker → Prop} {setup : Setup}
  {run : Runner}

/-- Where nothing is asked of answers, the change of the state is all there is to show. -/
theorem ends {before : Checker} {good : α → Checker → Prop}
    {outcome : Except Stop α × Checker} (fine : ∀ answer after, good answer after)
    (holds : flow before (stopOf outcome.1) outcome.2) :
    (Conduct.ofFlow flow).Ends before good outcome := by
  intro _
  obtain ⟨stop | answer, after⟩ := outcome
  · exact holds
  · exact ⟨holds, fine answer after⟩

theorem isOfCall_of_isOfRule {fault : Fault} (rule : fault.isOfRule = true) :
    fault.isOfCall = false := by
  cases fault <;> first | rfl | cases rule

theorem sound (kept : Flow flow setup run) : (Conduct.ofFlow flow).Sound setup run where
  still := kept.still
  trans := kept.trans
  stays _ _ := trivial
  fault checker span fault _ rule := kept.fault checker span fault (isOfCall_of_isOfRule rule)
  refilled checker span _ new _ _ := kept.fault checker span (.alreadyTyped new)
  record := kept.record
  inlay checker span ty _ := kept.inlay checker span ty
  bind checker name ty span _ := kept.bind checker name ty span
  define checker name ty span _ := kept.define checker name ty span
  block checker params body span _ := ⟨kept.block checker params body span, trivial⟩
  join checker left right ty grown _ _ := kept.join checker left right ty grown
  object checker _ _ := ⟨kept.object checker _, trivial⟩
  variant checker _ _ _ := ⟨kept.variant checker _, trivial⟩
  addField checker id name ty _ _ := kept.addField checker id name ty
  keeps _ _ := trivial
  unit _ := trivial
  literal _ _ := trivial
  lookup _ _ _ _ _ := trivial
  field _ _ _ _ _ _ _ := trivial
  tag _ _ _ _ _ _ _ _ _ := trivial
  exported _ _ _ _ _ _ := trivial
  supply _ _ _ _ _ _ _ _ := trivial
  opens _ := trivial
  enter _ := trivial
  leave _ := trivial
  scope := kept.scope
  call checker span id _ bound args _ _ _ _ :=
    ends (fun _ _ => trivial)
      (kept.call (runClosure_ends setup run span id (bound ++ args) checker))
  load checker span file _ closed unknown :=
    ends (fun _ _ => trivial)
      (kept.load closed unknown (loadFile_ends setup run span file checker))

/-- A step after which an answer is given changes what the step does. -/
theorem answered (_ : Flow flow setup run) {step : Check α} {answer : β} {checker : Checker}
    (flows : flow checker (stopOf (step.outcome checker).1) (step.outcome checker).2) :
    let outcome := (step >>= fun _ => pure answer).outcome checker
    flow checker (stopOf outcome.1) outcome.2 := by
  rcases result : step.outcome checker with ⟨stop | found, after⟩
  · rw [result] at flows
    rw [Check.outcome_bind_error result]
    exact flows
  · rw [result] at flows
    rw [Check.outcome_bind_ok result]
    exact flows

/-- The change that a visit makes, with the reason for which it stops. -/
def Of (flow : Checker → Option Stop → Checker → Prop) (visit : Visit α β) (checker : Checker) :
    Prop :=
  flow checker (stopOf (visit checker).1.2) (visit checker).2

theorem runStatements (kept : Flow flow setup run) (occasion : Occasion) (program : Program)
    (checker : Checker) : Of flow (runStatements setup run occasion program) checker :=
  (kept.sound.visitNodes occasion.isFile checker program).flow

end Flow

end CallTyping
