/-
This file proves that a check can read the types it needs off the nodes that it has
visited. The pass over a tree hands the types of the parts of an expression on to
the expression. Here a second pass visits the parts only for the sake of their
slots: when it comes to the expression it looks the types up in the slots, and
stops with a fault of its own if one is empty. On trees without types no slot is
found empty that has to be read and none is found filled that has to be written,
so both passes are the same, and no check stops because the checker itself went
wrong.
-/

import CallTyping.Proofs.Agreement
import CallTyping.Proofs.Truncation

namespace CallTyping

/-! ### Reading slots -/

/-- The type of a node that was visited. -/
def readType (node : Node) : Check Ty :=
  match node.slot with
  | some ty => return ty
  | none => fail node.span .untyped

def readTypes : List Node → Check (List Ty)
  | [] => return []
  | node :: rest => do
    let ty ← readType node
    let types ← readTypes rest
    return ty :: types

/-- The type of the last statement, or unit. -/
def readLast (body : List Node) : Check Ty :=
  match body.getLast? with
  | some node => readType node
  | none => return .unit

def readFields : List Field → Check (List (String × Ty))
  | [] => return []
  | .mk name value :: rest => do
    let ty ← readType value
    let types ← readFields rest
    return (name, ty) :: types

section

variable (setup : Setup) (run : Runner)

/-- The type of a call. The arguments are read only if there is a function to apply to them. -/
def readCall (span : Span) : List Node → Check Ty
  | [] => return .unit
  | [node] => readType node
  | callee :: args => do
    let ty ← readType callee
    match ty with
    | .function _ _ _ => applyFunction setup run span callee.span ty (← readTypes args)
    | _ => fail callee.span (.notAFunction ty)

mutual

/-- Visits a node that has no type yet. -/
def readNode (toplevel : Bool) : Node → Visit Node Ty
  | .mk span slot expr =>
    (Visit.settle () (record (.visiting expr.kindName span))).andThen
      (fun _ => .mk span slot expr) fun _ _ =>
        match slot with
        | some ty => .settle (.mk span (some ty) expr) (fail span (.alreadyTyped ty))
        | none => (readExpr toplevel span expr).asNode span

/-- Visits the parts of an expression, and then reads their types. -/
def readExpr (toplevel : Bool) (span : Span) : Expr → Visit Expr Ty
  | .ident name => .settle (.ident name) (typeOfName span name)
  | .literal value => .settle (.literal value) (pure value.type)
  | .call children =>
    (readEach false children).andThen .call fun children _ =>
      .settle (.call children) (readCall setup run span children)
  | .block params body => .settle (.block params body) (typeOfBlock span params body)
  | .ifThen condition body =>
    (readNode false condition).andThen (.ifThen · body) fun condition _ =>
      (readEach false body).andThen (.ifThen condition ·) fun body _ =>
        .settle (.ifThen condition body) do
          expectBool condition.span (← readType condition)
          return .unit
  | .ifThenElse condition body alternative =>
    (readNode false condition).andThen (.ifThenElse · body alternative) fun condition _ =>
      (readEach false body).andThen (.ifThenElse condition · alternative) fun body _ =>
        (readEach false alternative).andThen (.ifThenElse condition body ·) fun alternative _ =>
          .settle (.ifThenElse condition body alternative) do
            expectBool condition.span (← readType condition)
            let bodyTy ← readLast body
            let otherTy ← readLast alternative
            joinTypes conditionalReason span bodyTy otherTy
  | .whileLoop condition body =>
    (readNode false condition).andThen (.whileLoop · body) fun condition _ =>
      (readEach false body).andThen (.whileLoop condition ·) fun body _ =>
        .settle (.whileLoop condition body) (pure .unit)
  | .caseOf scrutinee arms =>
    (readNode false scrutinee).andThen (.caseOf · arms) fun scrutinee _ =>
      (Visit.settle () do
        let ty ← readType scrutinee
        let variant ← expectVariant scrutinee.span ty
        let choices ← selectArms setup.settings.unknownArms variant arms
        return (ty, choices)).andThen (fun _ => .caseOf scrutinee arms) fun _ chosen =>
          (readArms span arms chosen.2 none).andThen (.caseOf scrutinee ·) fun arms result =>
            .settle (.caseOf scrutinee arms) (typeOfMatch span chosen.1 result)
  | .dot target field =>
    (readNode false target).andThen (.dot · field) fun target _ =>
      .settle (.dot target field) do
        typeOfField target.span (← readType target) field
  | .update target value =>
    (readNode false value).andThen (.update target ·) fun value _ =>
      (Visit.settle () (readType value)).andThen (fun _ => .update target value) fun _ ty =>
        (readTarget value.span ty target).within (.update · value)
  | .assertion value annotation =>
    (readNode false value).andThen (.assertion · annotation) fun value _ =>
      .settle (.assertion value annotation) do
        let ty ← readType value
        assertType setup.annotations value.span ty annotation
        return ty
  | .object fields =>
    (readEachField fields).andThen .object fun fields _ =>
      .settle (.object fields) do
        newObject (← readFields fields)
  | .variant tag args =>
    (readEach false args).andThen (.variant tag ·) fun args _ =>
      .settle (.variant tag args) do
        newVariant tag (← readTypes args)
  | .define name value =>
    (readNode false value).andThen (.define name ·) fun value _ =>
      .settle (.define name value) do
        defineName toplevel span name (← readType value)
  | .require name => .settle (.require name) (typeOfRequire setup run span name)
  | .inlay inner =>
    (readNode false inner).andThen .inlay fun inner _ =>
      .settle (.inlay inner) do
        noteInlay span (← readType inner)

/-- Assigns a type to the target of an update. -/
def readTarget (valueSpan : Span) (new : Ty) : Node → Visit Node Ty
  | .mk span slot (.ident name) =>
    .assign (.mk span slot (.ident name)) (updateVariable span valueSpan name new)
  | .mk span slot (.dot base field) =>
    if base.isIdent then
      (readNode false base).andThen (fun base => .mk span slot (.dot base field)) fun base ty =>
        .assign (.mk span slot (.dot base field)) (updateField base.span valueSpan ty field new)
    else
      .settle (.mk span slot (.dot base field)) (fail span (.nestedFieldAssign field))
  | .mk span slot expr => .settle (.mk span slot expr) (fail span .invalidAssignTarget)

/-- Visits nodes one after the other. -/
def readEach (toplevel : Bool) : List Node → Visit (List Node) Unit
  | [] => .settle [] (pure ())
  | node :: rest =>
    (readNode toplevel node).andThen (· :: rest) fun node _ =>
      (readEach toplevel rest).within (node :: ·)

/-- Visits the values of fields one after the other. -/
def readEachField : List Field → Visit (List Field) Unit
  | [] => .settle [] (pure ())
  | .mk name value :: rest =>
    (readNode false value).andThen (.mk name · :: rest) fun value _ =>
      (readEachField rest).within (.mk name value :: ·)

/-- Visits the chosen arms of a match and joins their types. -/
def readArms (span : Span) :
    List Arm → List (Option (List Ty)) → Option Ty → Visit (List Arm) (Option Ty)
  | arm :: rest, some expected :: choices, previous =>
    (readArm expected arm).andThen (· :: rest) fun arm ty =>
      (Visit.settle () (joinArm span previous ty)).andThen (fun _ => arm :: rest)
        fun _ joined => (readArms span rest choices (some joined)).within (arm :: ·)
  | arm :: rest, none :: choices, previous =>
    (readArms span rest choices previous).within (arm :: ·)
  | arms, _, previous => .settle arms (pure previous)

/-- Visits an arm in a scope of its own, and then reads the type of its last statement. -/
def readArm (expected : List Ty) : Arm → Visit Arm Ty
  | .mk span tag args body =>
    .between Checker.enterScope Checker.leaveScope <|
      (bindPattern args expected).andThen (Arm.mk span tag · body) fun args _ =>
        (readEach false body).andThen (Arm.mk span tag args ·) fun body _ =>
          .settle (.mk span tag args body) (readLast body)

end

/-- Runs statements and reads their types afterwards. -/
def readStatements : Runner := fun occasion program =>
  (readEach setup run occasion.isFile program).andThen id fun program _ =>
    .settle program (readTypes program)

/-- Runs statements and reads their types, and so in the bodies and files they lead to. -/
def readWithin : Nat → Runner
  | 0 => fun _ program => .settle program (throw .exhausted)
  | levels + 1 => readStatements setup (readWithin levels)

end

/-- Checks a file, reading all types off the nodes that were visited. -/
def checkReading (setup : Setup) (file : String) (program : Program) : Visit Program Unit :=
  fun checker =>
    checkWith (readWithin setup (checker.headroom setup + 1)) file program checker

/-! ### Slots that are filled -/

theorem readType_of_slot {node : Node} {ty : Ty} (slot : node.slot = some ty) :
    readType node = pure ty := by
  rw [readType, slot]

theorem readTypes_of_slots {nodes : List Node} {types : List Ty}
    (slots : nodes.map Node.slot = types.map some) : readTypes nodes = pure types := by
  induction nodes generalizing types with
  | nil =>
    cases types with
    | nil => rfl
    | cons => cases slots
  | cons node rest inductionHypothesis =>
    cases types with
    | nil => cases slots
    | cons ty types =>
      obtain ⟨first, others⟩ := List.cons.inj slots
      rw [readTypes, readType_of_slot first, pure_bind, inductionHypothesis others, pure_bind]

theorem readLast_of_slots {body : List Node} {types : List Ty}
    (slots : body.map Node.slot = types.map some) : readLast body = pure (Ty.ofBody types) := by
  have last := lastType_of_slots slots
  cases found : body.getLast? with
  | none =>
    rw [lastType, found] at last
    rw [readLast, found, ← Option.some.inj last]
  | some node =>
    rw [lastType, found] at last
    rw [readLast, found]
    exact readType_of_slot last

theorem readFields_of_entries {fields : List Field} {types : List (String × Ty)}
    (entries : fields.map Field.entry = types.map fun field => (field.1, some field.2)) :
    readFields fields = pure types := by
  induction fields generalizing types with
  | nil =>
    cases types with
    | nil => rfl
    | cons => cases entries
  | cons field rest inductionHypothesis =>
    obtain ⟨name, value⟩ := field
    cases types with
    | nil => cases entries
    | cons entry types =>
      obtain ⟨first, others⟩ := List.cons.inj entries
      obtain ⟨rfl, slot⟩ := Prod.mk.inj first
      rw [readFields, readType_of_slot slot, pure_bind, inductionHypothesis others, pure_bind]

theorem readCall_of_slots (setup : Setup) (run : Runner) (span : Span) {children : List Node}
    {types : List Ty} (slots : children.map Node.slot = types.map some) :
    readCall setup run span children = typeOfCall setup run span (calleeSpan children) types := by
  rcases children with _ | ⟨callee, args⟩ <;> rcases types with _ | ⟨ty, types⟩
  · rfl
  · cases slots
  · cases slots
  obtain ⟨first, others⟩ := List.cons.inj slots
  rcases args with _ | ⟨node, args⟩ <;> rcases types with _ | ⟨other, types⟩
  · exact readType_of_slot first
  · cases others
  · cases others
  rw [readCall, readType_of_slot first, pure_bind, typeOfCall, calleeSpan]
  · cases ty with
    | function id arity bound =>
      dsimp only
      rw [readTypes_of_slots others, pure_bind]
    | _ => rfl
  · rintro ⟨⟩
  · rintro ⟨⟩

/-! ### Equal visits -/

namespace Visit

variable {α β γ δ : Type}

/-- A visit whose answer is of no interest. -/
def discard (visit : Visit α β) : Visit α Unit := fun checker =>
  let ((piece, answer), after) := visit checker
  ((piece, answer.map fun _ => ()), after)

theorem discard_ok {visit : Visit α β} {checker after : Checker} {piece : α} {found : β}
    (done : visit checker = ((piece, .ok found), after)) :
    visit.discard checker = ((piece, .ok ()), after) := by
  rw [discard, done]
  rfl

theorem discard_error {visit : Visit α β} {checker after : Checker} {piece : α} {stop : Stop}
    (stopped : visit checker = ((piece, .error stop), after)) :
    visit.discard checker = ((piece, .error stop), after) := by
  rw [discard, stopped]
  rfl

theorem discard_andThen (visit : Visit α β) (around : α → γ) (next : α → β → Visit γ δ) :
    (visit.andThen around next).discard =
      visit.andThen around fun piece found => (next piece found).discard := by
  funext checker
  rcases result : visit checker with ⟨⟨piece, stop | found⟩, after⟩
  · rw [discard_error (andThen_error result), andThen_error result]
  · rw [discard, andThen_ok result, andThen_ok result]
    rfl

/-- An answer that is made of another one changes nothing that is of interest. -/
theorem andThen_discard_pure (visit : Visit α β) (around : α → γ) (change : β → δ) :
    (visit.andThen around fun piece found =>
        (settle (around piece) (pure (change found))).discard) =
      visit.discard.within around := by
  funext checker
  rcases result : visit checker with ⟨⟨piece, stop | found⟩, after⟩
  · rw [andThen_error result, within, discard_error result]
  · rw [andThen_ok result, within, discard_ok result]
    rfl

theorem andThen_settle_pure (visit : Visit α β) :
    (visit.andThen id fun piece found => settle piece (pure found)) = visit := by
  funext checker
  rcases result : visit checker with ⟨⟨piece, stop | found⟩, after⟩
  · rw [andThen_error result]
    rfl
  · rw [andThen_ok result]
    rfl

theorem settle_pure_andThen (tree : α) (answer : β) (around : α → γ)
    (next : α → β → Visit γ δ) :
    (settle tree (pure answer)).andThen around next = next tree answer := rfl

/-- A step may make its answer ready for what follows. -/
theorem settle_map_andThen {ε : Type} (tree : α) (step : Check β) (change : β → ε)
    (around : α → γ) (next : α → ε → Visit γ δ) :
    (settle tree (step >>= fun answer => pure (change answer))).andThen around next =
      (settle tree step).andThen around fun tree answer => next tree (change answer) := by
  rw [settle_bind]
  funext checker
  rcases result : settle tree step checker with ⟨⟨piece, stop | found⟩, after⟩
  · rw [andThen_error result, andThen_error (andThen_error result)]
    rfl
  · rw [andThen_ok result, andThen, andThen_ok result]
    rfl

/-- After equal visits it is enough that what follows is equal for what they can give back. -/
theorem andThen_congr {visit : Visit α β} {around : α → γ} {next other : α → β → Visit γ δ}
    {kept : α → Prop} {good : α → β → Prop} (yields : Yields visit kept good)
    (same : ∀ piece found, kept piece → good piece found → next piece found = other piece found) :
    visit.andThen around next = visit.andThen around other := by
  funext checker
  obtain ⟨isKept, isGood⟩ := yields checker
  rcases result : visit checker with ⟨⟨piece, stop | found⟩, after⟩
  · rw [andThen_error result, andThen_error result]
  · rw [result] at isKept isGood
    rw [andThen_ok result, andThen_ok result, same piece found isKept (isGood found rfl)]

/-- What follows may do without an answer, if it can find the answer again. -/
theorem discard_andThen_congr {visit : Visit α β} {around : α → γ} {next : α → Unit → Visit γ δ}
    {other : α → β → Visit γ δ} {kept : α → Prop} {good : α → β → Prop}
    (yields : Yields visit kept good)
    (same : ∀ piece found, kept piece → good piece found → next piece () = other piece found) :
    visit.discard.andThen around next = visit.andThen around other := by
  funext checker
  obtain ⟨isKept, isGood⟩ := yields checker
  rcases result : visit checker with ⟨⟨piece, stop | found⟩, after⟩
  · rw [andThen_error result, andThen_error (discard_error result)]
  · rw [result] at isKept isGood
    rw [andThen_ok result, andThen_ok (discard_ok result),
      same piece found isKept (isGood found rfl)]

end Visit

/-! ### The pass over a tree -/

section

variable (setup : Setup) (run : Runner)

mutual

theorem readNode_eq (toplevel : Bool) : (node : Node) → Blank node.preorder →
    readNode setup run toplevel node = visitNode setup run toplevel node
  | .mk span slot expr, blank => by
    simp only [Node.preorder, blank_cons] at blank
    obtain ⟨empty, inside⟩ := blank
    cases slot with
    | some _ => cases empty
    | none => simp only [readNode, visitNode, readExpr_eq toplevel span expr inside]

theorem readExpr_eq (toplevel : Bool) (span : Span) : (expr : Expr) → Blank expr.preorder →
    readExpr setup run toplevel span expr = visitExpr setup run toplevel span expr
  | .ident _, _ | .literal _, _ | .block _ _, _ | .require _, _ => by
    simp only [readExpr, visitExpr]
  | .call children, blank => by
    simp only [readExpr, visitExpr, readEach_eq false children blank]
    refine Visit.discard_andThen_congr (visitNodes_yields setup run false children blank)
      fun children types _ covered => ?_
    rw [readCall_of_slots setup run span covered.2]
  | .ifThen condition body, blank => by
    obtain ⟨blankCondition, blankBody⟩ := blank_append.mp blank
    simp only [readExpr, visitExpr, readNode_eq false condition blankCondition,
      readEach_eq false body blankBody]
    refine Visit.andThen_congr (visitNode_yields setup run false condition blankCondition)
      fun condition ty _ covered => ?_
    refine Visit.discard_andThen_congr (visitNodes_yields setup run false body blankBody)
      fun body types _ _ => ?_
    rw [readType_of_slot covered.2, pure_bind]
  | .ifThenElse condition body alternative, blank => by
    obtain ⟨blankBoth, blankAlternative⟩ := blank_append.mp blank
    obtain ⟨blankCondition, blankBody⟩ := blank_append.mp blankBoth
    simp only [readExpr, visitExpr, readNode_eq false condition blankCondition,
      readEach_eq false body blankBody, readEach_eq false alternative blankAlternative]
    refine Visit.andThen_congr (visitNode_yields setup run false condition blankCondition)
      fun condition ty _ covered => ?_
    refine Visit.discard_andThen_congr (visitNodes_yields setup run false body blankBody)
      fun body types _ covered' => ?_
    refine Visit.discard_andThen_congr
      (visitNodes_yields setup run false alternative blankAlternative)
      fun alternative otherTypes _ coveredLast => ?_
    rw [readType_of_slot covered.2, pure_bind, readLast_of_slots covered'.2,
      readLast_of_slots coveredLast.2]
    simp only [pure_bind, typeOfConditional]
  | .whileLoop condition body, blank => by
    obtain ⟨blankCondition, blankBody⟩ := blank_append.mp blank
    simp only [readExpr, visitExpr, readNode_eq false condition blankCondition,
      readEach_eq false body blankBody]
    refine Visit.andThen_congr (visitNode_yields setup run false condition blankCondition)
      fun condition ty _ _ => ?_
    exact Visit.discard_andThen_congr (visitNodes_yields setup run false body blankBody)
      fun _ _ _ _ => rfl
  | .caseOf scrutinee arms, blank => by
    obtain ⟨blankScrutinee, blankArms⟩ := blank_append.mp blank
    simp only [readExpr, visitExpr, readNode_eq false scrutinee blankScrutinee]
    refine Visit.andThen_congr (visitNode_yields setup run false scrutinee blankScrutinee)
      fun scrutinee ty _ covered => ?_
    rw [readType_of_slot covered.2, pure_bind, ← bind_assoc, Visit.settle_map_andThen]
    have chosen : Yields (.settle () (expectVariant scrutinee.span ty >>= fun variant =>
        selectArms setup.settings.unknownArms variant arms)) (fun _ => True)
        fun _ choices => List.Forall₂ Selected arms choices :=
      Yields.settle trivial
        ((Answers.any _).bind fun variant _ => selectArms_answers _ variant arms)
    refine Visit.andThen_congr chosen fun _ choices _ selected => ?_
    rw [readArms_eq span arms choices none selected blankArms]
  | .dot target field, blank => by
    simp only [readExpr, visitExpr, readNode_eq false target blank]
    refine Visit.andThen_congr (visitNode_yields setup run false target blank)
      fun target ty _ covered => ?_
    rw [readType_of_slot covered.2, pure_bind]
  | .update target value, blank => by
    obtain ⟨blankTarget, blankValue⟩ := blank_append.mp blank
    simp only [readExpr, visitExpr, readNode_eq false value blankValue]
    refine Visit.andThen_congr (visitNode_yields setup run false value blankValue)
      fun value ty _ covered => ?_
    rw [readType_of_slot covered.2, Visit.settle_pure_andThen,
      readTarget_eq value.span ty target blankTarget]
  | .assertion value described, blank => by
    obtain ⟨blankValue, blankDescribed⟩ := blank_append.mp blank
    simp only [readExpr, visitExpr, readNode_eq false value blankValue]
    refine Visit.andThen_congr (visitNode_yields setup run false value blankValue)
      fun value ty _ covered => ?_
    rw [readType_of_slot covered.2, pure_bind]
  | .object fields, blank => by
    simp only [readExpr, visitExpr, readEachField_eq fields blank]
    refine Visit.discard_andThen_congr (visitFields_yields setup run fields blank)
      fun fields types _ covered => ?_
    rw [readFields_of_entries covered.2, pure_bind]
  | .variant tag args, blank => by
    simp only [readExpr, visitExpr, readEach_eq false args blank]
    refine Visit.discard_andThen_congr (visitNodes_yields setup run false args blank)
      fun args types _ covered => ?_
    rw [readTypes_of_slots covered.2, pure_bind]
  | .define name value, blank => by
    simp only [readExpr, visitExpr, readNode_eq false value blank]
    refine Visit.andThen_congr (visitNode_yields setup run false value blank)
      fun value ty _ covered => ?_
    rw [readType_of_slot covered.2, pure_bind]
  | .inlay inner, blank => by
    simp only [readExpr, visitExpr, readNode_eq false inner blank]
    refine Visit.andThen_congr (visitNode_yields setup run false inner blank)
      fun inner ty _ covered => ?_
    rw [readType_of_slot covered.2, pure_bind]

theorem readTarget_eq (valueSpan : Span) (new : Ty) : (target : Node) → Blank target.preorder →
    readTarget setup run valueSpan new target = visitTarget setup run valueSpan new target
  | .mk span slot (.ident name), _ => by simp only [readTarget, visitTarget]
  | .mk span slot (.dot base field), blank => by
    simp only [Node.preorder, blank_cons] at blank
    simp only [readTarget, visitTarget, readNode_eq false base blank.2]
  | .mk _ _ (.literal _), _ | .mk _ _ (.call _), _ | .mk _ _ (.block _ _), _
  | .mk _ _ (.ifThen _ _), _ | .mk _ _ (.ifThenElse _ _ _), _
  | .mk _ _ (.whileLoop _ _), _ | .mk _ _ (.caseOf _ _), _ | .mk _ _ (.update _ _), _
  | .mk _ _ (.assertion _ _), _ | .mk _ _ (.object _), _ | .mk _ _ (.variant _ _), _
  | .mk _ _ (.define _ _), _ | .mk _ _ (.require _), _ | .mk _ _ (.inlay _), _ => by
    simp only [readTarget, visitTarget]

theorem readEach_eq (toplevel : Bool) : (nodes : List Node) → Blank (preorderNodes nodes) →
    readEach setup run toplevel nodes = (visitNodes setup run toplevel nodes).discard
  | [], _ => by
    simp only [readEach, visitNodes]
    rfl
  | node :: rest, blank => by
    obtain ⟨blankNode, blankRest⟩ := blank_append.mp blank
    simp only [readEach, visitNodes, readNode_eq toplevel node blankNode,
      readEach_eq toplevel rest blankRest, Visit.discard_andThen]
    refine congrArg (Visit.andThen _ _) ?_
    funext node ty
    exact (Visit.andThen_discard_pure _ (node :: ·) (ty :: ·)).symm

theorem readEachField_eq : (fields : List Field) → Blank (preorderFields fields) →
    readEachField setup run fields = (visitFields setup run fields).discard
  | [], _ => by
    simp only [readEachField, visitFields]
    rfl
  | .mk name value :: rest, blank => by
    obtain ⟨blankValue, blankRest⟩ := blank_append.mp blank
    simp only [readEachField, visitFields, readNode_eq false value blankValue,
      readEachField_eq rest blankRest, Visit.discard_andThen]
    refine congrArg (Visit.andThen _ _) ?_
    funext value ty
    exact (Visit.andThen_discard_pure _ (Field.mk name value :: ·) ((name, ty) :: ·)).symm

theorem readArms_eq (span : Span) : (arms : List Arm) → (choices : List (Option (List Ty))) →
    (previous : Option Ty) → List.Forall₂ Selected arms choices → Blank (preorderArms arms) →
    readArms setup run span arms choices previous = visitArms setup run span arms choices previous
  | arm :: rest, some expected :: choices, previous, .cons selected others, blank => by
    obtain ⟨blankArm, blankRest⟩ := blank_append.mp blank
    simp only [readArms, visitArms, readArm_eq expected arm (selected expected rfl) blankArm,
      fun joined => readArms_eq span rest choices (some joined) others blankRest]
  | arm :: rest, none :: choices, previous, .cons _ others, blank => by
    obtain ⟨blankArm, blankRest⟩ := blank_append.mp blank
    simp only [readArms, visitArms, readArms_eq span rest choices previous others blankRest]
  | [], [], previous, .nil, _ => by
    unfold readArms visitArms
    rfl

theorem readArm_eq (expected : List Ty) : (arm : Arm) → expected.length = arm.pattern.length →
    Blank arm.preorder → readArm setup run expected arm = visitArm setup run expected arm
  | .mk span tag args body, lengths, blank => by
    obtain ⟨blankArgs, blankBody⟩ := blank_append.mp blank
    simp only [readArm, visitArm, readEach_eq false body blankBody]
    refine congrArg (Visit.between _ _ <| Visit.andThen _ _ ·) ?_
    funext args _
    refine Visit.discard_andThen_congr (visitNodes_yields setup run false body blankBody)
      fun body types _ covered => ?_
    rw [readLast_of_slots covered.2]

end

end

/-! ### Runs -/

/-- The runs of two ways of running are the same where they are the same for calls and loads. -/
theorem readWithin_cuts {setup : Setup} {levels : Nat}
    (served : ∀ path source, setup.loader.load path = .ok source → Blank (preorderNodes source))
    (same : ∀ occasion program (checker : Checker), Blank (preorderNodes program) →
      checker.closures.Fresh → readWithin setup levels occasion program checker =
        runWithin setup levels occasion program checker) :
    Cuts (fun before _ after => before.closures.Keeps after.closures)
      (fun checker => checker.closures.Fresh) (fun _ _ => False) setup (readWithin setup levels)
      (runWithin setup levels) where
  kept := keeps_flow setup (runWithin_keeps setup levels)
  stays keeps fresh := keeps.fresh fresh
  enters fresh := fresh
  before _ strayed := strayed
  after strayed _ := strayed
  scope strayed := strayed
  call span id args fresh := .inl <| runClosure_agrees setup span fun _ _ closure known =>
    same (.body id args) closure.body _ (fresh id closure known) fresh
  load span file fresh _ _ := .inl <| loadFile_agrees setup span fun program loaded =>
    same (.file file) program _ (served file program loaded) fresh

theorem readStatements_eq (setup : Setup) (run : Runner) (occasion : Occasion) {program : Program}
    (blank : Blank (preorderNodes program)) :
    readStatements setup run occasion program = runStatements setup run occasion program := by
  unfold readStatements runStatements
  rw [readEach_eq setup run occasion.isFile program blank, Visit.discard_andThen_congr
    (visitNodes_yields setup run occasion.isFile program blank) fun typed types _ covered => ?_]
  · exact Visit.andThen_settle_pure _
  · rw [readTypes_of_slots covered.2]

/-- On statements without types both ways of running are the same. -/
theorem readWithin_eq {setup : Setup} (served : ∀ path source,
      setup.loader.load path = .ok source → Blank (preorderNodes source)) (levels : Nat)
    (occasion : Occasion) (program : Program) (checker : Checker)
    (blank : Blank (preorderNodes program)) (fresh : checker.closures.Fresh) :
    readWithin setup levels occasion program checker =
      runWithin setup levels occasion program checker := by
  induction levels generalizing occasion program checker with
  | zero => rfl
  | succ levels inductionHypothesis =>
    rw [readWithin, readStatements_eq setup _ occasion blank]
    exact ((readWithin_cuts served inductionHypothesis).runStatements occasion program checker
      fresh).resolve_right fun strayed => strayed.2

/-! ### Checks -/

/-- A checker that has checked one program after the other, reading all types off the nodes. -/
def Checker.afterReading (requests : List Request) : Checker :=
  requests.foldl (fun checker request =>
    (checkReading request.setup request.file request.program checker).2) .initial

theorem checkReading_eq {request : Request} (untyped : request.Untyped) {checker : Checker}
    (fresh : checker.closures.Fresh) :
    checkReading request.setup request.file request.program checker =
      checkFile request.setup request.file request.program checker := by
  unfold checkReading checkFile
  cases opened : checker.isOpen request.file with
  | true => rw [checkWith_open _ _ _ _ opened, checkWith_open _ _ _ _ opened]
  | false =>
    rw [checkWith_closed _ _ _ _ opened, checkWith_closed _ _ _ _ opened,
      readWithin_eq untyped.served _ (.file request.file) request.program
        (checker.enterFile request.file) untyped.program fresh]

theorem afterReading_eq {requests : List Request} (untyped : ∀ request ∈ requests,
      request.Untyped) : Checker.afterReading requests = Checker.after requests := by
  induction requests using List.reverseRecOn with
  | nil => rfl
  | append_singleton past request inductionHypothesis =>
    obtain ⟨before, last⟩ := List.forall_mem_append.mp untyped
    have same := inductionHypothesis before
    unfold Checker.afterReading at same ⊢
    rw [List.foldl_append, List.foldl_cons, List.foldl_nil, same,
      checkReading_eq (last request List.mem_cons_self) (after_registered past).blank,
      after_append, Checker.checked]

/-- As long as all trees are without types when their checks begin, a check that reads the types of
parts off their nodes is the check that hands them on, and it never stops because a node was typed
twice, a node was not typed when its type was needed, or a function was not known. Programs that are
kept by path are always loaded without types. -/
theorem no_internal_fault (past : List Request) (request : Request)
    (untyped : ∀ other ∈ past ++ [request], other.Untyped) :
    (∀ (sources : Sources) path source, sources.loader.load path = .ok source →
      Blank (preorderNodes source)) ∧
      let checker := Checker.afterReading past
      checker = Checker.after past ∧
        let outcome := checkReading request.setup request.file request.program checker
        outcome = checkFile request.setup request.file request.program checker ∧
          ∀ error, outcome.1.2 = .error (.fault error) →
            (∀ ty, error.fault ≠ .alreadyTyped ty) ∧ error.fault ≠ .untyped ∧
              ∀ id, error.fault ≠ .unknownClosure id := by
  have before : ∀ other ∈ past, other.Untyped := fun other member =>
    untyped other (List.mem_append_left _ member)
  have last : request.Untyped :=
    untyped request (List.mem_append_right _ (List.mem_singleton.mpr rfl))
  have registered := after_registered past
  refine ⟨fun sources => blank_load sources, afterReading_eq before, ?_⟩
  rw [afterReading_eq before]
  refine ⟨checkReading_eq last registered.blank, fun error stopped => ?_⟩
  rw [checkReading_eq last registered.blank] at stopped
  have proper : error.fault.isInternal = false :=
    isInternal_of_untyped past last stopped
  refine ⟨?_, ?_, ?_⟩
  · intro ty typed
    rw [typed] at proper
    cases proper
  · intro never
    rw [never] at proper
    cases proper
  · intro id missing
    rw [missing] at proper
    cases proper

/-- A program that passes, and after it one with an unknown name. -/
def strayName : Request :=
  ⟨matchingRequest.setup, "other.brie", [.untyped .origin (.ident "one")]⟩

theorem strayName_no_internal_fault :
    (∀ other ∈ [matchingRequest] ++ [strayName], other.Untyped) ∧
      (checkReading strayName.setup strayName.file strayName.program
        (Checker.afterReading [matchingRequest])).1.2.isOk = false ∧
      ∀ error, (checkReading strayName.setup strayName.file strayName.program
        (Checker.afterReading [matchingRequest])).1.2 = .error (.fault error) →
          error.fault ≠ .untyped := by
  have untyped : ∀ other ∈ [matchingRequest] ++ [strayName], other.Untyped := by
    intro other member
    rcases List.mem_cons.mp member with rfl | later
    · exact ⟨by unfold Blank; decide, fun path source => blank_load _ path source⟩
    · rw [List.mem_singleton.mp later]
      exact ⟨by unfold Blank; decide, fun path source => blank_load _ path source⟩
  refine ⟨untyped, by decide +kernel, fun error stopped => ?_⟩
  exact ((no_internal_fault [matchingRequest] strayName untyped).2.2.2 error stopped).2.1

end CallTyping
