/-
This file proves that the arguments of a function may be given one after the other.
A call that does not give all of them only keeps them. As long as there are not too
many, the body is entered by the outermost call, with all arguments in their order
and under its place, however they were grouped. The inner calls leave a trace in the
log alone, and no check depends on what is in the log.
-/

import CallTyping.Proofs.Tandem

namespace CallTyping

/-! ### States that differ in their log -/

/-- The states differ at most in the events that were recorded. -/
def Checker.SameButLog (first second : Checker) : Prop := ∃ log, second = { first with log }

namespace Tandem

/-- Two checks that differ at most in what they have recorded. -/
def besideLog : Tandem := ⟨Checker.SameButLog, Checker.SameButLog, fun _ => False⟩

theorem besideLog_steady : besideLog.Steady where
  file := by rintro _ _ ⟨_, rfl⟩; rfl
  heap := by rintro _ _ ⟨_, rfl⟩; rfl
  lookup _ := by rintro ⟨_, rfl⟩; rfl
  definitions _ := by rintro ⟨_, rfl⟩; rfl
  next := by rintro _ _ ⟨_, rfl⟩; rfl
  halts := id
  record _ := by rintro ⟨_, rfl⟩; exact ⟨_, rfl⟩
  inlay _ _ := by rintro ⟨_, rfl⟩; exact ⟨_, rfl⟩
  withHeap _ := by rintro ⟨_, rfl⟩; exact ⟨_, rfl⟩
  bind _ _ := by rintro ⟨_, rfl⟩; exact ⟨_, rfl⟩
  define _ _ := by rintro ⟨_, rfl⟩; exact ⟨_, rfl⟩
  block _ _ _ := by rintro ⟨_, rfl⟩; exact ⟨_, rfl⟩

/-- No action depends on what is in the log. -/
theorem besideLog_sound (setup : Setup) : besideLog.Sound setup setup where
  toSteady := besideLog_steady
  annotations := rfl
  loader := rfl
  extension := rfl
  arm variant arm := besideLog_steady.selectArm _ variant arm
  enterScope := by rintro _ _ ⟨_, rfl⟩; exact ⟨_, rfl⟩
  leaveScope := by rintro _ _ ⟨_, rfl⟩; exact ⟨_, rfl⟩
  stopScope := by rintro _ _ ⟨_, rfl⟩; exact ⟨_, rfl⟩
  recalled _ _ := by rintro ⟨_, rfl⟩; rfl
  refused _ _ := by rintro ⟨_, rfl⟩; exact ⟨_, rfl⟩
  deep _ := by rintro ⟨_, rfl⟩ deep; exact .inr ⟨rfl, deep⟩
  shallow := by rintro _ _ ⟨_, rfl⟩ shallow; exact shallow
  beginBody {checker _} id := by
    rintro ⟨_, rfl⟩
    dsimp only
    cases checker.closures.get? id with
    | none => exact .none
    | some closure => exact .some ⟨rfl, fun _ => ⟨_, rfl⟩⟩
  endBody _ _ _ _ := by rintro ⟨_, rfl⟩ ⟨_, rfl⟩; exact ⟨_, rfl⟩
  stopBody _ _ := by rintro ⟨_, rfl⟩ ⟨_, rfl⟩; exact ⟨_, rfl⟩
  isOpen _ _ := by rintro ⟨_, rfl⟩; exact .inr rfl
  missing _ := by rintro ⟨_, rfl⟩ _ _; exact ⟨_, rfl⟩
  beginFile _ := by rintro ⟨_, rfl⟩ _ _; exact ⟨_, rfl⟩
  stopFile _ := by rintro ⟨_, rfl⟩ _ ⟨_, rfl⟩; exact ⟨_, rfl⟩
  expose span name file typed := by
    rintro ⟨_, rfl⟩ _ ⟨_, rfl⟩
    exact besideLog_steady.exposeFile span name file _ _ ⟨_, rfl⟩

end Tandem

/-! ### Visits as steps -/

section

variable {α β γ δ : Type}

/-- A visit without the piece that it gives back. -/
def Visit.step (visit : Visit α β) : Check β := ExceptT.mk visit.outcome

namespace Check

theorem ext {step step' : Check β}
    (same : ∀ checker, step.outcome checker = step'.outcome checker) : step = step' := funext same

@[simp]
theorem outcome_step (visit : Visit α β) (checker : Checker) :
    outcome visit.step checker = visit.outcome checker := rfl

/-- What comes after a step needs to be the same for the answers that it gives. -/
theorem bind_eq_bind {step : Check β} {next next' : β → Check γ}
    (same : ∀ checker answer after, step.outcome checker = (.ok answer, after) →
      next answer = next' answer) : step >>= next = step >>= next' := by
  refine ext fun checker => ?_
  rcases result : step.outcome checker with ⟨stop | answer, after⟩
  · rw [outcome_bind_error result, outcome_bind_error result]
  · rw [outcome_bind_ok result, outcome_bind_ok result, same checker answer after result]

end Check

namespace Visit

@[simp]
theorem step_settle (tree : α) (step : Check β) : (settle tree step).step = step := rfl

theorem step_asNode (span : Span) (visit : Visit Expr Ty) : (visit.asNode span).step = visit.step :=
  rfl

theorem step_andThen {visit : Visit α β} {around : α → γ} {next : α → β → Visit γ δ}
    {rest : β → Check δ}
    (follows : ∀ checker piece found after, visit checker = ((piece, .ok found), after) →
      (next piece found).step = rest found) :
    (visit.andThen around next).step = visit.step >>= rest := by
  refine Check.ext fun checker => ?_
  rw [Check.outcome_step, Check.outcome_bind, Check.outcome_step]
  rcases result : visit checker with ⟨⟨piece, stop | found⟩, after⟩
  · rw [outcome, outcome, andThen_error result, result]
  · rw [outcome, outcome, andThen_ok result, result]
    dsimp only
    rw [← follows checker piece found after result]
    rfl

end Visit

end

/-! ### Nodes one after the other -/

section

variable (setup : Setup) (run : Runner)

theorem step_visitNodes_nil (toplevel : Bool) :
    (visitNodes setup run toplevel []).step = pure [] := by
  rw [visitNodes, Visit.step_settle]

theorem step_visitNodes_cons (toplevel : Bool) (node : Node) (rest : List Node) :
    (visitNodes setup run toplevel (node :: rest)).step = do
      let ty ← (visitNode setup run toplevel node).step
      let types ← (visitNodes setup run toplevel rest).step
      return ty :: types := by
  rw [visitNodes]
  refine Visit.step_andThen fun _ _ ty _ _ => ?_
  exact Visit.step_andThen fun _ _ types _ _ => Visit.step_settle _ _

theorem step_visitNodes_append (toplevel : Bool) (nodes others : List Node) :
    (visitNodes setup run toplevel (nodes ++ others)).step = do
      let types ← (visitNodes setup run toplevel nodes).step
      let more ← (visitNodes setup run toplevel others).step
      return types ++ more := by
  induction nodes with
  | nil => simp [step_visitNodes_nil]
  | cons node rest inductionHypothesis =>
    simp only [List.cons_append, step_visitNodes_cons, inductionHypothesis, bind_assoc, pure_bind]

variable {setup run}

/-- Every node of a list has one type. -/
theorem length_of_visitNodes {toplevel : Bool} {nodes : List Node} {checker after : Checker}
    {types : List Ty}
    (done : (visitNodes setup run toplevel nodes).step.outcome checker = (.ok types, after)) :
    types.length = nodes.length := by
  induction nodes generalizing checker after types with
  | nil =>
    rw [step_visitNodes_nil] at done
    cases done
    rfl
  | cons node rest inductionHypothesis =>
    rw [step_visitNodes_cons, Check.outcome_bind] at done
    split at done
    next ty middle _ =>
      rw [Check.outcome_bind] at done
      split at done
      next others last ended =>
        cases done
        exact congrArg Nat.succ (inductionHypothesis ended)
      next => cases done
    next => cases done

variable (setup run)

/-- A call types its callee, then its arguments, and then applies the one to the others. -/
theorem step_visitNode_call (toplevel : Bool) (span : Span) (callee : Node) (args : List Node) :
    (visitNode setup run toplevel (.untyped span (.call (callee :: args)))).step = (do
      record (.visiting "call" span)
      let ty ← (visitNode setup run false callee).step
      let types ← (visitNodes setup run false args).step
      typeOfCall setup run span callee.span (ty :: types)) := by
  have applied : (visitExpr setup run toplevel span (.call (callee :: args))).step =
      (visitNodes setup run false (callee :: args)).step >>=
        typeOfCall setup run span callee.span := by
    rw [visitExpr]
    refine Visit.step_andThen fun checker pieces types after done => ?_
    have place := Conduct.Sound.calleeSpan_visitNodes setup run false checker callee args
    rw [done] at place
    rw [Visit.step_settle, place]
  rw [Node.untyped, visitNode]
  refine Visit.step_andThen fun _ _ _ _ _ => ?_
  rw [Visit.step_asNode, applied, step_visitNodes_cons]
  simp only [bind_assoc, pure_bind]

end

/-! ### Arguments in groups -/

/-- Calls around calls, each with its place and its arguments, from the innermost to the outermost
one. -/
def Node.applied (callee : Node) : List (Span × List Node) → Node
  | [] => callee
  | (span, args) :: outer => (Node.untyped span (.call (callee :: args))).applied outer

/-- Records that calls around each other are entered, from the outermost to the innermost one. -/
def announce : List (Span × List Node) → Check Unit
  | [] => pure ()
  | (span, _) :: outer => do
    announce outer
    record (.visiting "call" span)

theorem outcome_announce (groups : List (Span × List Node)) (checker : Checker) :
    ∃ log, (announce groups).outcome checker = (.ok (), { checker with log }) := by
  induction groups with
  | nil => exact ⟨checker.log, rfl⟩
  | cons group outer inductionHypothesis =>
    obtain ⟨log, announced⟩ := inductionHypothesis
    refine ⟨log.push (.visiting "call" group.1), ?_⟩
    rw [announce, Check.outcome_bind_ok announced]
    rfl

section

variable (setup : Setup) (run : Runner)

/-- Types the arguments of calls around each other, and applies the callee to one group of them
after the other. -/
def supplyGroups (place : Span) (ty : Ty) : List (Span × List Node) → Check Ty
  | [] => pure ty
  | (span, args) :: outer => do
    let types ← (visitNodes setup run false args).step
    let applied ← typeOfCall setup run span place (ty :: types)
    supplyGroups span applied outer

/-- The innermost callee is typed before all arguments. -/
theorem step_visitNode_applied (callee : Node) (groups : List (Span × List Node)) :
    (visitNode setup run false (callee.applied groups)).step = (do
      announce groups
      let ty ← (visitNode setup run false callee).step
      supplyGroups setup run callee.span ty groups) := by
  induction groups generalizing callee with
  | nil => simp [Node.applied, announce, supplyGroups]
  | cons group outer inductionHypothesis =>
    obtain ⟨span, args⟩ := group
    rw [Node.applied, inductionHypothesis, step_visitNode_call]
    simp only [announce, supplyGroups, bind_assoc]
    rfl

variable {setup run} {id : ClosureId} {arity : Nat} {bound : List Ty}

/-- A call that does not give all arguments keeps them. -/
theorem typeOfCall_fewer {types : List Ty} (given : 0 < types.length)
    (fewer : types.length < Ty.remaining arity bound) (span place : Span) :
    typeOfCall setup run span place (.function id arity bound :: types) =
      pure (.function id arity (bound ++ types)) := by
  obtain ⟨ty, rest, rfl⟩ := List.exists_cons_of_length_pos given
  simp only [typeOfCall, applyFunction]
  rw [if_pos fewer]
  rfl

/-- A call that gives the last arguments runs the body. -/
theorem typeOfCall_all {types : List Ty} (given : 0 < types.length)
    (all : types.length = Ty.remaining arity bound) (span place : Span) :
    typeOfCall setup run span place (.function id arity bound :: types) =
      runClosure setup run span id (bound ++ types) := by
  obtain ⟨ty, rest, rfl⟩ := List.exists_cons_of_length_pos given
  simp only [typeOfCall, applyFunction]
  rw [if_neg (Nat.not_lt.mpr (Nat.le_of_eq all.symm)), if_pos all]

/-- It makes no difference which of the arguments have been kept. -/
theorem typeOfCall_kept {kept types : List Ty} (given : 0 < types.length)
    (fits : kept.length + types.length ≤ Ty.remaining arity bound) (span place place' : Span) :
    typeOfCall setup run span place (.function id arity (bound ++ kept) :: types) =
      typeOfCall setup run span place' (.function id arity bound :: (kept ++ types)) := by
  have remaining : Ty.remaining arity (bound ++ kept) + kept.length = Ty.remaining arity bound := by
    simp only [Ty.remaining, List.length_append] at fits ⊢
    omega
  have length : (kept ++ types).length = kept.length + types.length := List.length_append
  by_cases fewer : types.length < Ty.remaining arity (bound ++ kept)
  · rw [typeOfCall_fewer given fewer, typeOfCall_fewer (by omega) (by omega), List.append_assoc]
  · rw [typeOfCall_all given (by omega), typeOfCall_all (by omega) (by omega), List.append_assoc]

/-- Calls around each other that give no more arguments than a function waits for are like one call
that gives all of them. -/
theorem supplyGroups_then {inner : List (Span × List Node)} {last : List Node}
    (each : ∀ group ∈ inner, group.2 ≠ []) (given : last ≠ [])
    (fits : (inner.flatMap Prod.snd ++ last).length ≤ Ty.remaining arity bound)
    (span place place' place'' : Span) :
    (do
      let ty ← supplyGroups setup run place (.function id arity bound) inner
      let types ← (visitNodes setup run false last).step
      typeOfCall setup run span place' (ty :: types)) = (do
      let types ← (visitNodes setup run false (inner.flatMap Prod.snd ++ last)).step
      typeOfCall setup run span place'' (.function id arity bound :: types)) := by
  induction inner generalizing bound place with
  | nil =>
    rw [supplyGroups, pure_bind, List.flatMap_nil, List.nil_append]
    refine Check.bind_eq_bind fun checker types after done => ?_
    have length := length_of_visitNodes done
    have positive := List.length_pos_iff.mpr given
    have kept := @typeOfCall_kept setup run id arity bound [] types (by omega)
      (by simpa [length] using fits) span place' place''
    rwa [List.append_nil] at kept
  | cons group outer inductionHypothesis =>
    obtain ⟨inside, args⟩ := group
    rw [List.flatMap_cons, List.append_assoc, List.length_append] at fits
    dsimp only at fits
    have positive : 0 < args.length := List.length_pos_iff.mpr (each _ List.mem_cons_self)
    have later : 0 < (outer.flatMap Prod.snd ++ last).length := by
      rw [List.length_append]
      exact Nat.add_pos_right _ (List.length_pos_iff.mpr given)
    rw [List.flatMap_cons, List.append_assoc, step_visitNodes_append]
    simp only [supplyGroups, bind_assoc, pure_bind]
    refine Check.bind_eq_bind fun checker types after done => ?_
    have length := length_of_visitNodes done
    have remaining : Ty.remaining arity (bound ++ types) =
        Ty.remaining arity bound - types.length := by
      rw [Ty.remaining, List.length_append, Ty.remaining, Nat.sub_add_eq]
    rw [typeOfCall_fewer (by omega) (by omega), pure_bind, inductionHypothesis
      (fun group member => each group (List.mem_cons_of_mem _ member)) (by omega)]
    refine Check.bind_eq_bind fun checker more after done => ?_
    have length' := length_of_visitNodes done
    exact typeOfCall_kept (by omega) (by omega) span _ _

end

/-! ### Calls in groups and at once -/

namespace Tandem

/-- Visits that come to the same are steps that do. -/
theorem Along.step {tandem : Tandem} {α β : Type} {visit visit' : Visit α β}
    (along : tandem.Along visit visit') : tandem.Steps visit.step visit'.step := by
  intro checker checker' together
  have both := along checker checker' together
  rw [Visit.settle_eq, Visit.settle_eq, Check.outcome_step, Check.outcome_step, Visit.outcome,
    Visit.outcome]
  generalize visit checker = ended, visit' checker' = ended' at both ⊢
  cases both with
  | quit own => exact .quit own
  | answer together => exact .answer together
  | stop stopped => exact .stop stopped

/-- In states that differ in their log only, such steps have the same outcome but for the log. -/
theorem Steps.outcome_eq {β : Type} {step step' : Check β} (steps : besideLog.Steps step step')
    {checker checker' : Checker} (same : checker.SameButLog checker') :
    (step'.outcome checker').1 = (step.outcome checker).1 ∧
      (step.outcome checker).2.SameButLog (step'.outcome checker').2 := by
  have both := steps checker checker' same
  rw [Visit.settle_eq, Visit.settle_eq] at both
  generalize step.outcome checker = ended, step'.outcome checker' = ended' at both ⊢
  obtain ⟨answer, after⟩ := ended
  obtain ⟨answer', after'⟩ := ended'
  cases both with
  | quit own => exact own.elim
  | answer together => exact ⟨rfl, together⟩
  | stop stopped => exact ⟨rfl, stopped⟩

/-- After steps that come to the same, it is enough to compare what follows the given answer. -/
theorem Steps.outcome_bind_eq {β γ : Type} {step step' : Check β} {next next' : β → Check γ}
    (steps : besideLog.Steps step step') {checker checker' : Checker}
    (same : checker.SameButLog checker')
    (rest : ∀ answer, (step.outcome checker).1 = .ok answer →
      besideLog.Steps (next answer) (next' answer)) :
    ((step' >>= next').outcome checker').1 = ((step >>= next).outcome checker).1 ∧
      ((step >>= next).outcome checker).2.SameButLog ((step' >>= next').outcome checker').2 := by
  have both := steps.outcome_eq same
  rcases result : step.outcome checker with ⟨answer, after⟩
  rcases result' : step'.outcome checker' with ⟨answer', after'⟩
  rw [result, result'] at both
  obtain ⟨rfl, same'⟩ := both
  cases answer' with
  | error stop =>
    rw [Check.outcome_bind_error result, Check.outcome_bind_error result']
    exact ⟨rfl, same'⟩
  | ok answer =>
    rw [Check.outcome_bind_ok result, Check.outcome_bind_ok result']
    exact (rest answer (congrArg Prod.fst result)).outcome_eq same'

end Tandem

/-- The visit of a call in which the first of these nodes is applied to the others. -/
def visitCall (setup : Setup) (levels : Nat) (toplevel : Bool) (span : Span)
    (children : List Node) : Visit Node Ty :=
  visitNode setup (runWithin setup levels) toplevel (.untyped span (.call children))

/-- From every state: if the callee of a call, once typed, is a function that waits for at least as
many arguments as the call has in all its groups, then the call in groups comes to the same type or
the same fault as the call that gives all arguments at once. It leaves the same state, but for the
log. -/
theorem groups_of_arguments_do_not_matter (setup : Setup) (levels : Nat) (toplevel : Bool)
    (checker : Checker) (callee : Node) (span : Span) {inner : List (Span × List Node)}
    {last : List Node} (each : ∀ group ∈ inner, group.2 ≠ []) (given : last ≠ [])
    (function : ∀ ty,
      (visitNode setup (runWithin setup levels) false callee checker).1.2 = .ok ty →
        ∃ id arity bound, ty = .function id arity bound ∧
          (inner.flatMap Prod.snd ++ last).length ≤ Ty.remaining arity bound) :
    (visitCall setup levels toplevel span (callee.applied inner :: last) checker).1.2 =
        (visitCall setup levels toplevel span (callee :: (inner.flatMap Prod.snd ++ last))
          checker).1.2 ∧
      Checker.SameButLog
        (visitCall setup levels toplevel span (callee :: (inner.flatMap Prod.snd ++ last))
          checker).2
        (visitCall setup levels toplevel span (callee.applied inner :: last) checker).2 := by
  have sound := Tandem.besideLog_sound setup
  have runs := sound.runWithin levels
  -- The inner calls are entered first, and from then on only the log differs.
  let start : Checker := { checker with log := checker.log.push (.visiting "call" span) }
  obtain ⟨log, announced⟩ := outcome_announce inner start
  let start' : Checker := { start with log }
  let answer := (visitNode setup (runWithin setup levels) false callee).step
  let finish (ty : Ty) : Check Ty := do
    let types ← (visitNodes setup (runWithin setup levels) false
      (inner.flatMap Prod.snd ++ last)).step
    typeOfCall setup (runWithin setup levels) span callee.span (ty :: types)
  let finish' (ty : Ty) : Check Ty := do
    let ty ← supplyGroups setup (runWithin setup levels) callee.span ty inner
    let types ← (visitNodes setup (runWithin setup levels) false last).step
    typeOfCall setup (runWithin setup levels) span (callee.applied inner).span (ty :: types)
  have flat : (visitCall setup levels toplevel span
      (callee :: (inner.flatMap Prod.snd ++ last))).outcome checker =
        (answer >>= finish).outcome start := by
    rw [visitCall, ← Check.outcome_step, step_visitNode_call,
      Check.outcome_bind_ok (Check.outcome_record _ _)]
  have nested : (visitCall setup levels toplevel span
      (callee.applied inner :: last)).outcome checker = (answer >>= finish').outcome start' := by
    rw [visitCall, ← Check.outcome_step, step_visitNode_call,
      Check.outcome_bind_ok (Check.outcome_record _ _), step_visitNode_applied, bind_assoc,
      Check.outcome_bind_ok announced, bind_assoc]
  have steps := (sound.visitNode runs false callee).step
  have before : checker.SameButLog start := ⟨_, rfl⟩
  have same : start.SameButLog start' := ⟨log, rfl⟩
  have both : ((answer >>= finish').outcome start').1 = ((answer >>= finish).outcome start).1 ∧
      ((answer >>= finish).outcome start).2.SameButLog
        ((answer >>= finish').outcome start').2 := by
    refine steps.outcome_bind_eq same fun ty answered => ?_
    obtain ⟨id, arity, bound, rfl, fits⟩ :=
      function ty ((steps.outcome_eq before).1.symm.trans answered)
    have equal : finish' (.function id arity bound) = finish (.function id arity bound) :=
      supplyGroups_then each given fits span _ _ _
    rw [equal]
    exact (sound.visitNodes runs false _).step.bind fun types =>
      sound.typeOfCall runs span callee.span (.function id arity bound :: types)
  rw [← flat, ← nested] at both
  exact both

/-- A function of two arguments that answers with the second one. -/
def secondOfTwo : Node :=
  .untyped .origin (.block ["p", "q"] [.untyped .origin (.ident "q")])

/-- It is given an integer, and then a string. -/
theorem secondOfTwo_in_groups :
    let inner : List (Span × List Node) := [(.origin, [.untyped .origin (.literal (.integer 1))])]
    let last : List Node := [.untyped .origin (.literal (.string "s"))]
    (∀ group ∈ inner, group.2 ≠ []) ∧ last ≠ [] ∧
    (∀ ty, (visitNode .standard (runWithin .standard 2) false secondOfTwo .initial).1.2 = .ok ty →
      ∃ id arity bound, ty = .function id arity bound ∧
        (inner.flatMap Prod.snd ++ last).length ≤ Ty.remaining arity bound) ∧
    ((visitCall .standard 2 false .origin (secondOfTwo.applied inner :: last) .initial).1.2 =
        (visitCall .standard 2 false .origin (secondOfTwo :: (inner.flatMap Prod.snd ++ last))
          .initial).1.2 ∧
      Checker.SameButLog
        (visitCall .standard 2 false .origin (secondOfTwo :: (inner.flatMap Prod.snd ++ last))
          .initial).2
        (visitCall .standard 2 false .origin (secondOfTwo.applied inner :: last) .initial).2) ∧
    (visitCall .standard 2 false .origin (secondOfTwo.applied inner :: last)
      .initial).1.2.toOption.map Ty.kind = some .string := by
  intro inner last
  have each : ∀ group ∈ inner, group.2 ≠ [] := by simp [inner]
  have given : last ≠ [] := List.cons_ne_nil _ _
  have function : ∀ ty,
      (visitNode .standard (runWithin .standard 2) false secondOfTwo .initial).1.2 = .ok ty →
        ∃ id arity bound, ty = .function id arity bound ∧
          (inner.flatMap Prod.snd ++ last).length ≤ Ty.remaining arity bound := by
    intro ty typed
    have answers : (visitNode .standard (runWithin .standard 2) false secondOfTwo
      .initial).1.2 = .ok (.function ⟨0⟩ 2 []) := rfl
    cases answers.symm.trans typed
    exact ⟨⟨0⟩, 2, [], rfl, by decide⟩
  have agree := groups_of_arguments_do_not_matter .standard 2 false .initial secondOfTwo .origin
    each given function
  exact ⟨each, given, function, agree, by decide +kernel⟩

end CallTyping
