/-
This file says what the steps of a check come to. The outcome of a step is its
answer together with the state it leaves, and the outcome of a sequence of steps
is found from the outcomes of its members. A visit has an outcome as well, which
forgets the piece of the tree that it gives back.
-/

import CallTyping.Checker.Session

namespace CallTyping

/-- Why an answer was not given, if it was not. -/
def stopOf {α : Type} : Except Stop α → Option Stop
  | .ok _ => none
  | .error stop => some stop

theorem stopOf_eq_some {α : Type} {answer : Except Stop α} {stop : Stop} :
    stopOf answer = some stop ↔ answer = .error stop := by
  cases answer <;> simp [stopOf]

theorem stopOf_map {α β : Type} (change : α → β) (answer : Except Stop α) :
    stopOf (answer.map change) = stopOf answer := by
  cases answer <;> rfl

theorem passes_of_isOk {answer : Except Stop Unit} (passed : answer.isOk = true) :
    answer = .ok () := by
  cases answer with
  | error => cases passed
  | ok => rfl

/-! ### Outcomes of steps -/

namespace Check

variable {α β : Type}

/-- The answer of a step, or why it stops, and the state after it. -/
def outcome (step : Check α) (checker : Checker) : Except Stop α × Checker :=
  step.run.run checker

@[simp]
theorem outcome_pure (answer : α) (checker : Checker) :
    outcome (pure answer) checker = (.ok answer, checker) := rfl

@[simp]
theorem outcome_get (checker : Checker) : outcome get checker = (.ok checker, checker) := rfl

@[simp]
theorem outcome_set (next checker : Checker) : outcome (set next) checker = (.ok ⟨⟩, next) := rfl

@[simp]
theorem outcome_modify (change : Checker → Checker) (checker : Checker) :
    outcome (modify change) checker = (.ok ⟨⟩, change checker) := rfl

@[simp]
theorem outcome_record (event : Event) (checker : Checker) :
    outcome (record event) checker =
      (.ok ⟨⟩, { checker with log := checker.log.push event }) := rfl

@[simp]
theorem outcome_modifyBindings (change : Bindings → Bindings) (checker : Checker) :
    outcome (modifyBindings change) checker =
      (.ok ⟨⟩, { checker with bindings := change checker.bindings }) := rfl

@[simp]
theorem outcome_asStep (visit : Visit α β) (checker : Checker) :
    outcome visit.asStep checker = (.ok (visit checker).1, (visit checker).2) := rfl

/-- A sequence stops where its first step stops, and else goes on after it. -/
theorem outcome_bind (step : Check α) (next : α → Check β) (checker : Checker) :
    outcome (step >>= next) checker =
      match outcome step checker with
      | (.ok answer, after) => outcome (next answer) after
      | (.error stop, after) => (.error stop, after) := by
  simp only [outcome, ExceptT.run_bind, StateT.run_bind]
  generalize step.run.run checker = ended
  obtain ⟨stop | answer, after⟩ := ended
  · rfl
  · rfl

theorem outcome_bind_ok {step : Check α} {next : α → Check β} {checker after : Checker}
    {answer : α} (done : outcome step checker = (.ok answer, after)) :
    outcome (step >>= next) checker = outcome (next answer) after := by
  rw [outcome_bind, done]

theorem outcome_bind_error {step : Check α} {next : α → Check β} {checker after : Checker}
    {stop : Stop} (stopped : outcome step checker = (.error stop, after)) :
    outcome (step >>= next) checker = (.error stop, after) := by
  rw [outcome_bind, stopped]

end Check

/-! ### Outcomes of joins and updates -/

namespace Heap

/-- A join leaves all fields alone. -/
theorem field?_join {heap grown : Heap} {left right ty : Ty}
    (joined : heap.join left right = some (ty, grown)) (id : ObjectId) (name : String) :
    grown.field? id name = heap.field? id name := by
  obtain ⟨-, rfl | ⟨known, incoming, -, -, rfl⟩⟩ := join_cases joined <;> rfl

end Heap

namespace Check

theorem outcome_joinTypes_some {checker : Checker} {expected found ty : Ty} {grown : Heap}
    (joined : checker.heap.join expected found = some (ty, grown)) (reason : String)
    (span : Span) :
    outcome (joinTypes reason span expected found) checker =
      (.ok expected, { checker with heap := grown }) := by
  rw [joinTypes, outcome_bind, outcome_get]
  dsimp only
  rw [joined, (Heap.join_cases joined).1]
  rfl

theorem outcome_joinTypes_none {checker : Checker} {expected found : Ty}
    (conflict : checker.heap.join expected found = none) (reason : String) (span : Span) :
    outcome (joinTypes reason span expected found) checker =
      (.error (.fault ⟨checker.file, span, .mismatchedTypes expected found reason⟩), checker) := by
  rw [joinTypes, outcome_bind, outcome_get]
  dsimp only
  rw [conflict]
  rfl

/-- An update of a name joins two types and leaves all bindings as they are. -/
theorem outcome_updateVariable (span valueSpan : Span) (name : String) (new : Ty)
    (checker : Checker) :
    outcome (updateVariable span valueSpan name new) checker =
      outcome (typeOfName span name >>= fun old => joinTypes updateReason valueSpan old new)
        checker := by
  unfold updateVariable
  rw [outcome_bind, outcome_bind, typeOfName, outcome_bind, outcome_get]
  dsimp only
  cases known : checker.lookup name with
  | none => rfl
  | some old =>
    simp only [outcome_pure]
    rw [outcome_bind]
    cases joins : checker.heap.join old new with
    | none => rw [outcome_joinTypes_none joins]
    | some joined =>
      rw [outcome_joinTypes_some joins]
      dsimp only
      rw [outcome_bind, outcome_get]
      dsimp only
      rw [outcome_bind, outcome_modifyBindings]
      have unchanged := Bindings.retype_same checker.bindings checker.file name old known
      simp only [unchanged, Option.getD_some, outcome_pure]

/-- An update of a field that is known joins two types, and one of a new field adds it. -/
theorem outcome_updateField (objectSpan valueSpan : Span) (ty : Ty) (field : String) (new : Ty)
    (checker : Checker) :
    outcome (updateField objectSpan valueSpan ty field new) checker =
      outcome (expectObject objectSpan ty >>= fun object =>
        match checker.heap.field? object field with
        | some old => joinTypes updateReason valueSpan old new
        | none => do
          modify fun checker => { checker with heap := checker.heap.setField object field new }
          return new) checker := by
  unfold updateField
  cases ty with
  | object object =>
    simp only [expectObject, pure_bind]
    rw [outcome_bind, outcome_get]
    dsimp only
    cases known : checker.heap.field? object field with
    | none => rfl
    | some old =>
      dsimp only
      rw [outcome_bind]
      cases joins : checker.heap.join old new with
      | none => rw [outcome_joinTypes_none joins]
      | some joined =>
        rw [outcome_joinTypes_some joins]
        have present := (Heap.field?_join joins object field).trans known
        simp only [outcome_bind, outcome_modify, outcome_pure,
          Heap.setField_same _ _ _ _ present]
  | _ => rfl

end Check

/-! ### Outcomes of visits -/

namespace Visit

variable {α β γ δ : Type}

/-- The answer of a visit and the state after it, without the piece that was visited. -/
def outcome (visit : Visit α β) (checker : Checker) : Except Stop β × Checker :=
  ((visit checker).1.2, (visit checker).2)

@[simp]
theorem outcome_between (before after : Checker → Checker) (visit : Visit α β)
    (checker : Checker) :
    (visit.between before after).outcome checker =
      ((visit.outcome (before checker)).1, after (visit.outcome (before checker)).2) := rfl

/-! ### Sequences of visits -/

theorem settle_eq (tree : α) (step : Check β) (checker : Checker) :
    settle tree step checker = ((tree, (step.outcome checker).1), (step.outcome checker).2) := rfl

theorem andThen_ok {visit : Visit α β} {around : α → γ} {next : α → β → Visit γ δ}
    {checker after : Checker} {piece : α} {found : β}
    (done : visit checker = ((piece, .ok found), after)) :
    visit.andThen around next checker = next piece found after := by
  simp only [andThen, done]

theorem andThen_error {visit : Visit α β} {around : α → γ} {next : α → β → Visit γ δ}
    {checker after : Checker} {piece : α} {stop : Stop}
    (stopped : visit checker = ((piece, .error stop), after)) :
    visit.andThen around next checker = ((around piece, .error stop), after) := by
  simp only [andThen, stopped]

/-- A sequence of visits stops where its first visit stops. -/
theorem andThen_stops {visit : Visit α β} {around : α → γ} {next : α → β → Visit γ δ}
    {checker : Checker} {stop : Stop} (stopped : (visit checker).1.2 = .error stop) :
    (visit.andThen around next checker).1.2 = .error stop := by
  rcases result : visit checker with ⟨⟨piece, answer⟩, after⟩
  rw [result] at stopped
  rw [andThen_error (result.trans (congrArg (fun answer => ((piece, answer), after)) stopped))]

/-- A sequence of steps is a sequence of visits that leave the tree alone. -/
theorem settle_bind (tree : α) (step : Check β) (next : β → Check γ) :
    settle tree (step >>= next) =
      (settle tree step).andThen id fun tree answer => settle tree (next answer) := by
  funext checker
  rw [settle_eq]
  rcases result : step.outcome checker with ⟨stop | answer, after⟩
  · have stopped : settle tree step checker = ((tree, .error stop), after) := by
      rw [settle_eq, result]
    rw [Check.outcome_bind_error result, andThen_error stopped]
    rfl
  · have done : settle tree step checker = ((tree, .ok answer), after) := by
      rw [settle_eq, result]
    rw [Check.outcome_bind_ok result, andThen_ok done, settle_eq]

end Visit

end CallTyping
