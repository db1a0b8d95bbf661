/-
This file is about functions that hand an argument back. Their result is a type
that was passed, not one of the same structure: an object or a variant keeps its
identity. But the record of calls compares arguments by structure, so a call that
is recalled hands back what was passed in the earlier call that it is recalled by.
It looks like the argument that is passed now, and yet a field that is assigned
through the result is a field of the other object.
-/

import CallTyping.Proofs.Memoization

namespace CallTyping

/-! ### The parameters of a body -/

namespace Bindings

/-- Parameters do not change what other names stand for. -/
theorem lookup_bindAll_other {params : List String} {name : String} (absent : name ∉ params)
    (args : List Ty) (span : Span) (file : String) {bindings : Bindings}
    (opened : bindings.Opened) :
    ((params.zip args).foldl (fun bindings (name, ty) => bindings.bind name ⟨ty, span⟩)
      bindings).lookup file name = bindings.lookup file name := by
  induction params generalizing args bindings with
  | nil => rfl
  | cons param params inductionHypothesis =>
    obtain ⟨different, absent⟩ := not_or.mp (mt List.mem_cons.mpr absent)
    cases args with
    | nil => rfl
    | cons ty args =>
      refine (inductionHypothesis absent args (opened_bind opened param ⟨ty, span⟩)).trans ?_
      rw [lookup_bind opened, if_neg different]

/-- A parameter stands for the argument in its place. -/
theorem lookup_bindAll {params : List String} (distinct : params.Nodup) {position : Nat}
    {name : String} (param : params[position]? = some name) {args : List Ty}
    (saturated : args.length = params.length) (span : Span) (file : String) {bindings : Bindings}
    (opened : bindings.Opened) :
    ((params.zip args).foldl (fun bindings (name, ty) => bindings.bind name ⟨ty, span⟩)
      bindings).lookup file name = args[position]? := by
  induction params generalizing position args bindings with
  | nil => cases param
  | cons first params inductionHypothesis =>
    obtain ⟨absent, distinct⟩ := List.nodup_cons.mp distinct
    cases args with
    | nil => cases saturated
    | cons ty args =>
      have openedNext := opened_bind opened first ⟨ty, span⟩
      cases position with
      | zero =>
        cases param
        refine (lookup_bindAll_other absent args span file openedNext).trans ?_
        rw [lookup_bind opened, if_pos rfl]
        rfl
      | succ position =>
        exact inductionHypothesis distinct param (Nat.succ.inj saturated) openedNext

end Bindings

theorem lookup_beginBody (checker : Checker) (id : ClosureId) {closure : Closure}
    (distinct : closure.params.Nodup) {position : Nat} {name : String}
    (param : closure.params[position]? = some name) {args : List Ty}
    (saturated : args.length = closure.params.length) :
    (checker.beginBody id closure args).lookup name = args[position]? :=
  Bindings.lookup_bindAll distinct param saturated closure.span closure.file
    (Bindings.opened_enter _)

/-! ### Bodies that are a name -/

/-- Whether the body of a block is the name of the parameter in a position, and its parameters
differ. -/
def Closure.handsBack (closure : Closure) (position : Nat) : Bool :=
  match closure.body with
  | [.mk _ _ (.ident name)] => closure.params[position]? = some name ∧ closure.params.Nodup
  | _ => false

/-- The name that such a body consists of. -/
theorem Closure.named {closure : Closure} {position : Nat}
    (holds : closure.handsBack position = true) :
    ∃ span slot name, closure.body = [.mk span slot (.ident name)] ∧
      closure.params[position]? = some name ∧ closure.params.Nodup := by
  unfold handsBack at holds
  split at holds
  next span slot name body =>
    obtain ⟨param, distinct⟩ := of_decide_eq_true holds
    exact ⟨span, slot, name, body, param, distinct⟩
  next => cases holds

theorem Closure.looks_of_handsBack {closure : Closure} {position : Nat}
    (handsBack : closure.handsBack position = true) : closure.looks [] = true := by
  obtain ⟨span, slot, name, body, param, -⟩ := closure.named handsBack
  have member : name ∈ closure.params.reverse ++ [] := by
    simpa using List.mem_of_getElem? param
  rw [Closure.looks, body, looksNodes, Node.looks, Expr.looks, if_pos member]
  rfl

/-- A name that runs on its own gives the type that it stands for. -/
theorem runWithin_ident {setup : Setup} {levels : Nat} {occasion : Occasion} {span : Span}
    {slot : Option Ty} {name : String} {checker after : Checker} {body : Program}
    {types : List Ty}
    (ran : runWithin setup levels occasion [.mk span slot (.ident name)] checker =
      ((body, .ok types), after)) :
    ∃ ty, checker.lookup name = some ty ∧ types = [ty] := by
  cases levels with
  | zero => cases ran
  | succ levels =>
    cases slot with
    | some ty => cases ran
    | none =>
      have visits : visitNode setup (runWithin setup levels) occasion.isFile
          (.mk span none (.ident name)) =
          (Visit.settle () (record (.visiting "identifier" span))).andThen
            (fun _ => .mk span none (.ident name)) fun _ _ =>
              (Visit.settle (.ident name) (typeOfName span name)).asNode span := rfl
      rw [runWithin, runStatements, visitNodes, visits] at ran
      simp only [visitNodes, Visit.andThen, Visit.asNode, Visit.settle_eq, typeOfName,
        Check.outcome_bind, Check.outcome_get, Check.outcome_record] at ran
      cases known : checker.lookup name with
      | none =>
        have unknown : { checker with log := checker.log.push (.visiting "identifier" span) :
          Checker }.lookup name = none := known
        rw [unknown] at ran
        cases ran
      | some ty =>
        have knownStill : { checker with log := checker.log.push (.visiting "identifier" span) :
          Checker }.lookup name = some ty := known
        rw [knownStill] at ran
        cases ran
        exact ⟨ty, rfl, rfl⟩

/-! ### Calls that hand back -/

namespace Typing

variable {setup : Setup} {id : ClosureId} {position : Nat}

/-- A typing of such a body gives the very type that it was given, and leaves the heap alone. -/
theorem handsBack (typing : Typing setup id) (handsBack : typing.closure.handsBack position = true)
    (saturated : typing.args.length = typing.closure.params.length) :
    typing.args[position]? = some typing.result ∧
      Still (typing.before.beginBody id typing.closure typing.args) typing.after := by
  have steady : typing.Steady typing.before [] := fun _ member => nomatch member
  refine ⟨?_, typing.still steady (Closure.looks_of_handsBack handsBack) saturated⟩
  obtain ⟨span, slot, name, body, param, distinct⟩ := Closure.named handsBack
  have ran := typing.ran
  rw [body] at ran
  obtain ⟨ty, known, types⟩ := runWithin_ident ran
  rw [lookup_beginBody typing.before id distinct param saturated] at known
  rw [known, Typing.result, types]
  rfl

end Typing

/-- The arguments for which a call is answered: its own ones if nothing is known about it, and those
of the typing of which the record tells otherwise. -/
inductive AnsweredFor (setup : Setup) (checker : Checker) (id : ClosureId) (args : List Ty) :
    List Ty → Prop where
  | new (unknown : checker.cache.recalled? checker.heap id args = none) :
    AnsweredFor setup checker id args args
  | recalled (typing : Typing setup id) (body : Program)
      (earlier : typing.after.heap.Grows checker.heap)
      (found : checker.cache.recalled? checker.heap id args =
        some ⟨typing.args, .done typing.result body⟩) :
    AnsweredFor setup checker id args typing.args

/-- A successful call of a block whose body is one of its parameters gives the very type that this
parameter was given: in this call if nothing was known about it, and in the call by which it is
recalled otherwise. The result has the structure of the argument passed now, and the heap is as
before. -/
theorem call_hands_back {setup : Setup} {checker : Checker} (reached : Reached setup checker)
    {id : ClosureId} {closure : Closure} (present : checker.closures.get? id = some closure)
    {position : Nat} (handsBack : closure.handsBack position = true) {args : List Ty}
    (saturated : args.length = closure.params.length) {levels : Nat} {span : Span} {result : Ty}
    {after : Checker}
    (passes : (runClosure setup (runWithin setup levels) span id args).outcome checker =
      (.ok result, after)) :
    ∃ given, AnsweredFor setup checker id args given ∧ given[position]? = some result ∧
      (∀ passed, args[position]? = some passed → checker.heap.same result passed = true) ∧
      after.heap = checker.heap := by
  have ends := runClosure_ends setup (runWithin setup levels) span id args checker
  rw [passes] at ends
  cases ends with
  | known stored _ body found =>
    obtain ⟨typing, backs⟩ :=
      reached.backed.entries id _ (List.mem_of_find?_eq_some found) result body rfl
    have alike := (Heap.sameArguments_iff _ _ _).mp
      (List.find?_eq_some_iff_append.mp found).1
    obtain rfl : typing.closure = closure :=
      Option.some.inj (backs.known.symm.trans present)
    have lengths := ((Heap.sameArguments_iff _ _ _).mp backs.sameArguments).length_eq
    obtain ⟨given, still⟩ := typing.handsBack handsBack
      (lengths.symm.trans (alike.length_eq.trans saturated))
    -- A body that only looks ends at the marker that was set for it.
    obtain rfl := backs.stored_eq still
    obtain rfl := backs.result
    refine ⟨typing.args, .recalled typing body backs.heap found, given, fun passed place => ?_, rfl⟩
    obtain ⟨inside, gives⟩ := List.getElem?_eq_some_iff.mp given
    obtain ⟨inside', passes⟩ := List.getElem?_eq_some_iff.mp place
    have same := alike.get inside inside'
    simp only [List.get_eq_getElem] at same
    rw [gives, passes] at same
    exact (Heap.same_iff _ _ _).mpr same
  | typed _ body types ended new shallow known ran =>
    obtain rfl := Option.some.inj (present.symm.trans known)
    obtain ⟨given, still⟩ := Typing.handsBack
      ⟨closure, args, checker, levels, body, types, ended, reached, ⟨new, shallow, present⟩, ran⟩
      handsBack saturated
    refine ⟨args, .new new, given, fun passed place => ?_, still.heap⟩
    obtain rfl := Option.some.inj (given.symm.trans place)
    exact (Heap.same_iff _ _ _).mpr fun _ => rfl

/-! ### Objects that look alike -/

/-- A function that hands its argument back, two objects of the same structure, and calls. -/
def handsBackCalls (calls : Program) : Program :=
  [outdatedCalls.define "f" (outdatedCalls.block ["p"] [outdatedCalls.name "p"]),
   outdatedCalls.define "a" (.untyped .origin (.object [.mk "x" outdatedCalls.one])),
   outdatedCalls.define "b" (.untyped .origin (.object [.mk "x" outdatedCalls.one]))] ++ calls

/-- The states before and after the function is called with the first object. -/
def beforeFirstCall : Checker := stateAfter 2 (handsBackCalls [])

def afterFirstCall : Checker :=
  stateAfter 2 (handsBackCalls
    [outdatedCalls.call [outdatedCalls.name "f", outdatedCalls.name "a"]])

/-- What a call of that function with the second object comes to. -/
def secondCall (checker : Checker) : Except Stop Ty × Checker :=
  (runClosure (shallowSetup 2) (runWithin (shallowSetup 2) 3) .origin ⟨0⟩ [.object ⟨1⟩]).outcome
    checker

/-- Whether a call passes with an object. -/
def givesObject (object : ObjectId) : Except Stop Ty × Checker → Bool
  | (.ok (.object found), _) => found = object
  | _ => false

theorem answer_of_givesObject {object : ObjectId} {outcome : Except Stop Ty × Checker}
    (gives : givesObject object outcome = true) :
    outcome = (.ok (.object object), outcome.2) := by
  unfold givesObject at gives
  split at gives
  next found after => rw [of_decide_eq_true gives]
  next => cases gives

/-- With nothing known about the call, the second object is what the function hands back. -/
theorem unknown_call_hands_back :
    let outcome := secondCall beforeFirstCall
    Reached (shallowSetup 2) beforeFirstCall ∧ outcome.1 = .ok (.object ⟨1⟩) ∧
      ∃ given, AnsweredFor (shallowSetup 2) beforeFirstCall ⟨0⟩ [.object ⟨1⟩] given ∧
        given[0]? = some (.object ⟨1⟩) ∧
        (∀ passed, [Ty.object ⟨1⟩][0]? = some passed →
          beforeFirstCall.heap.same (.object ⟨1⟩) passed = true) ∧
        outcome.2.heap = beforeFirstCall.heap := by
  intro outcome
  have reached : Reached (shallowSetup 2) beforeFirstCall := stateAfter_reached 2 _
  have gives : givesObject ⟨1⟩ outcome = true := by decide +kernel
  have passes := answer_of_givesObject gives
  have handsBack : (beforeFirstCall.closures.get? ⟨0⟩).any (fun closure =>
      closure.handsBack 0 && closure.params.length = 1) = true := by decide +kernel
  obtain ⟨closure, present, holds⟩ := (Option.any_eq_true _ _).mp handsBack
  rw [Bool.and_eq_true, decide_eq_true_iff] at holds
  have saturated : [Ty.object ⟨1⟩].length = closure.params.length := holds.2.symm
  exact ⟨reached, congrArg Prod.fst passes,
    call_hands_back reached present holds.1 saturated passes⟩

/-- After a call with the first object, a call with the second one is recalled and hands back the
first: a field that is assigned through the result is not there in the object that was passed. -/
theorem recalled_call_hands_back_other :
    let outcome := secondCall afterFirstCall
    Reached (shallowSetup 2) afterFirstCall ∧
      (afterFirstCall.closures.get? ⟨0⟩).any (fun closure =>
        closure.handsBack 0 && closure.params.length = 1) = true ∧
      outcome.1 = .ok (.object ⟨0⟩) ∧
      (outcome.2.heap.setField ⟨0⟩ "y" .string).field? ⟨1⟩ "y" = none :=
  ⟨stateAfter_reached 2 _, by decide +kernel,
    congrArg Prod.fst (answer_of_givesObject (by decide +kernel)),
    Option.isNone_iff_eq_none.mp (by decide +kernel)⟩

end CallTyping
