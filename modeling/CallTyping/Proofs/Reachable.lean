/-
This file defines the states that checkers with one setup pass through, from one
single action to the next. The typing of a body is entered when nothing is known
about the call, and ended only from the state in which its statements have run.
Every pass leads from such a state to such states, so the states in the middle of
a check are among them as well as those between checks.
-/

import CallTyping.Proofs.HeapGrowth

namespace CallTyping

/-- What a check does by itself, without the body of a call. -/
inductive Action : Checker → Checker → Prop where
  | record (checker : Checker) (event : Event) :
      Action checker { checker with log := checker.log.push event }
  | inlay (checker : Checker) (span : Span) (ty : Ty) :
      Action checker { checker with inlays := checker.inlays.push ⟨checker.file, span, ty⟩ }
  | bind (checker : Checker) (name : String) (ty : Ty) (span : Span) :
      Action checker { checker with bindings := checker.bindings.bind name ⟨ty, span⟩ }
  | define (checker : Checker) (name : String) (ty : Ty) (span : Span) :
      Action checker
        { checker with bindings := checker.bindings.define checker.file name ⟨ty, span⟩ }
  | block (checker : Checker) (params : List String) (body : Program) (span : Span) :
      Action checker (Conduct.remembered checker
        ⟨params, body.fresh, span, checker.file, checker.bindings.scopes⟩)
  | join (checker : Checker) (left right ty : Ty) (grown : Heap)
      (joined : checker.heap.join left right = some (ty, grown)) :
      Action checker { checker with heap := grown }
  | object (checker : Checker) (fields : Fields) :
      Action checker { checker with heap := (checker.heap.newObject fields).2 }
  | variant (checker : Checker) (tags : Tags) :
      Action checker { checker with heap := (checker.heap.newVariant tags).2 }
  | addField (checker : Checker) (id : ObjectId) (name : String) (ty : Ty)
      (new : checker.heap.field? id name = none) :
      Action checker { checker with heap := checker.heap.setField id name ty }
  | enterScope (checker : Checker) : Action checker checker.enterScope
  | leaveScope (checker : Checker) : Action checker checker.leaveScope
  | askLoader (checker : Checker) (file : String) :
      Action checker { checker with loads := checker.loads.push file }
  | enterFile (checker : Checker) (file : String) : Action checker (checker.enterFile file)
  | leaveFile (checker : Checker) (file previous : String) (scopes : Scopes) :
      Action checker (checker.leaveFile file previous scopes)
  | keepModule (checker : Checker) (file : String) (typed : Program) :
      Action checker { checker with modules := checker.modules.insert file typed }

/-- A call of which nothing is known, in a state in which its body can be typed. -/
structure NewCall (setup : Setup) (checker : Checker) (id : ClosureId) (closure : Closure)
    (args : List Ty) : Prop where
  new : checker.cache.recalled? checker.heap id args = none
  shallow : checker.callDepth < setup.settings.depthLimit
  present : checker.closures.get? id = some closure

/-- The states that a checker passes through. -/
inductive Reached (setup : Setup) : Checker → Prop where
  | initial : Reached setup .initial
  | act {checker after : Checker} (reached : Reached setup checker)
      (action : Action checker after) : Reached setup after
  /-- A call that is given up before its body is entered. -/
  | refuse {checker : Checker} (reached : Reached setup checker) (id : ClosureId) (args : List Ty)
      (new : checker.cache.recalled? checker.heap id args = none) :
      Reached setup ((checker.markCall id args).abandonCall id args)
  | begin {checker : Checker} (reached : Reached setup checker) {id : ClosureId}
      {closure : Closure} {args : List Ty} (isNew : NewCall setup checker id closure args) :
      Reached setup (checker.beginBody id closure args)
  | finish {checker after : Checker} (reached : Reached setup checker)
      (ended : Reached setup after) {id : ClosureId} {closure : Closure} {args : List Ty}
      (isNew : NewCall setup checker id closure args) {levels : Nat} {body : Program}
      {types : List Ty}
      (ran : runWithin setup levels (.body id args) closure.body
        (checker.beginBody id closure args) = ((body, .ok types), after)) :
      Reached setup ((after.leaveBody checker.file checker.bindings.scopes).finishCall id args
        (Ty.ofBody types) body)
  | abandon {checker after : Checker} (reached : Reached setup checker)
      (ended : Reached setup after) {id : ClosureId} {closure : Closure} {args : List Ty}
      (isNew : NewCall setup checker id closure args) {levels : Nat} {body : Program}
      {stop : Stop}
      (ran : runWithin setup levels (.body id args) closure.body
        (checker.beginBody id closure args) = ((body, .error stop), after)) :
      Reached setup ((after.leaveBody checker.file checker.bindings.scopes).abandonCall id args)

namespace Reached

variable {setup : Setup} {checker : Checker}

theorem beginFile (reached : Reached setup checker) (file : String) :
    Reached setup (checker.beginFile file) :=
  (reached.act (.askLoader checker file)).act (.enterFile _ file)

end Reached

/-! ### Passes -/

theorem reached_flow {setup : Setup} {levels : Nat}
    (runs : ∀ occasion program checker, Reached setup checker →
      Reached setup (runWithin setup levels occasion program checker).2) :
    Flow (fun before _ after => Reached setup before → Reached setup after) setup
      (runWithin setup levels) where
  still _ reached := reached
  trans left right reached := right (left reached)
  fault _ _ _ _ reached := reached
  record checker event reached := reached.act (.record checker event)
  inlay checker span ty reached := reached.act (.inlay checker span ty)
  bind checker name ty span reached := reached.act (.bind checker name ty span)
  define checker name ty span reached := reached.act (.define checker name ty span)
  block checker params body span reached := reached.act (.block checker params body span)
  join checker left right ty grown joined reached :=
    reached.act (.join checker left right ty grown joined)
  object checker fields reached := reached.act (.object checker fields)
  variant checker tags reached := reached.act (.variant checker tags)
  addField checker id name ty new reached := reached.act (.addField checker id name ty new)
  scope {checker after _} inner reached :=
    (inner (reached.act (.enterScope checker))).act (.leaveScope after)
  call {checker _ id args _} ends reached := by
    cases ends with
    | known => exact reached.act (.record checker _)
    | running => exact reached
    | tooDeep new | unknown new => exact reached.refuse id args new
    | typed closure body types after new shallow present ran =>
      have isNew : NewCall setup checker id closure args := ⟨new, shallow, present⟩
      have inner := runs (.body id args) closure.body _ (reached.begin isNew)
      rw [ran] at inner
      exact reached.finish inner isNew ran
    | failed closure body stop after new shallow present ran =>
      have isNew : NewCall setup checker id closure args := ⟨new, shallow, present⟩
      have inner := runs (.body id args) closure.body _ (reached.begin isNew)
      rw [ran] at inner
      exact reached.abandon inner isNew ran
  load {checker _ file _} _ _ ends reached := by
    cases ends with
    | missing => exact reached.act (.askLoader checker file)
    | checked program typed types after _ ran =>
      have inner := runs (.file file) program _ (reached.beginFile file)
      rw [ran] at inner
      exact (inner.act (.leaveFile after file _ _)).act (.keepModule _ file typed)
    | failed program typed stop after _ ran =>
      have inner := runs (.file file) program _ (reached.beginFile file)
      rw [ran] at inner
      exact inner.act (.leaveFile after file _ _)

theorem runWithin_reached (setup : Setup) (levels : Nat) (occasion : Occasion)
    (program : Program) (checker : Checker) (reached : Reached setup checker) :
    Reached setup (runWithin setup levels occasion program checker).2 := by
  induction levels generalizing occasion program checker with
  | zero => exact reached
  | succ levels inductionHypothesis =>
    exact (reached_flow inductionHypothesis).runStatements occasion program checker reached

/-- A checker passes through the states between its checks. -/
theorem after_reached {setup : Setup} {requests : List Request}
    (same : ∀ request ∈ requests, request.setup = setup) :
    Reached setup (Checker.after requests) := by
  suffices ∀ checker, Reached setup checker →
      Reached setup (requests.foldl Checker.checked checker) from this .initial .initial
  induction requests with
  | nil => exact fun _ reached => reached
  | cons request rest inductionHypothesis =>
    intro checker reached
    refine inductionHypothesis (fun other member => same other (List.mem_cons_of_mem _ member))
      _ ?_
    obtain rfl := same request List.mem_cons_self
    unfold Checker.checked checkFile
    cases opened : checker.isOpen request.file with
    | true =>
      rw [checkWith_open _ _ _ _ opened]
      exact reached
    | false =>
      rw [checkWith_closed _ _ _ _ opened]
      exact (runWithin_reached request.setup _ (.file request.file) request.program _
        (reached.act (.enterFile checker request.file))).act (.leaveFile _ request.file _ _)

end CallTyping
