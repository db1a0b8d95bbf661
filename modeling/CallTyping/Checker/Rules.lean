/-
This file defines the typing rules that do not look into the tree: each takes the
types of the parts of an expression and answers with the type of the whole.
-/

import CallTyping.Checker.State
import CallTyping.Heap.Join

namespace CallTyping

/-! ### Names -/

/-- The type that a name stands for. -/
def typeOfName (span : Span) (name : String) : Check Ty := do
  match (← get).lookup name with
  | some ty => return ty
  | none => fail span (.unknownVariable name)

/-- Names the type of a value, at the top level of the file or in the innermost scope. -/
def defineName (toplevel : Bool) (span : Span) (name : String) (ty : Ty) : Check Ty := do
  let file := (← get).file
  if toplevel then
    modifyBindings (·.define file name ⟨ty, span⟩)
  else
    modifyBindings (·.bind name ⟨ty, span⟩)
  return .unit

/-- Reports the type of a value. -/
def noteInlay (span : Span) (ty : Ty) : Check Ty := do
  let checker ← get
  record (.inlay checker.file span (checker.heap.text ty))
  modify fun checker => { checker with inlays := checker.inlays.push ⟨checker.file, span, ty⟩ }
  return .unit

/-! ### Joins -/

/-- Why the types of an update have to agree. -/
def updateReason : String := "updates must have the same type as the original"

/-- Why the branches of a conditional have to agree. -/
def conditionalReason : String := "if statement branches must have the same return type"

/-- Why the arms of a match have to agree. -/
def matchReason : String := "all arms of a match have to have the same type"

/-- The join of two types that have to agree for a reason. -/
def joinTypes (reason : String) (span : Span) (expected found : Ty) : Check Ty := do
  match (← get).heap.join expected found with
  | some (ty, heap) =>
    modify fun checker => { checker with heap }
    return ty
  | none => fail span (.mismatchedTypes expected found reason)

/-- A condition has to be a boolean. -/
def expectBool (span : Span) (ty : Ty) : Check Unit := do
  unless ty.isBool do
    fail span (.conditionNotBool ty)

/-- The type of a conditional whose branches have these types. -/
def typeOfConditional (span conditionSpan : Span) (condition body alternative : Ty) :
    Check Ty := do
  expectBool conditionSpan condition
  joinTypes conditionalReason span body alternative

/-! ### Objects and variants -/

/-- A new object with the given fields. -/
def newObject (fields : List (String × Ty)) : Check Ty := do
  let (ty, heap) := (← get).heap.newObject (.ofList fields)
  modify fun checker => { checker with heap }
  return ty

/-- A new variant with one tag. -/
def newVariant (tag : String) (args : List Ty) : Check Ty := do
  let (ty, heap) := (← get).heap.newVariant (.singleton tag args)
  modify fun checker => { checker with heap }
  return ty

/-- The object behind a type. -/
def expectObject (span : Span) (ty : Ty) : Check ObjectId :=
  match ty with
  | .object id => return id
  | _ => fail span (.notAnObject ty)

/-- The type of a field. -/
def typeOfField (span : Span) (ty : Ty) (field : String) : Check Ty := do
  let object ← expectObject span ty
  match (← get).heap.field? object field with
  | some found => return found
  | none => fail span (.unknownField field ty)

/-! ### Updates -/

/-- Assigns a type to a variable that is known already. -/
def updateVariable (span valueSpan : Span) (name : String) (new : Ty) : Check Ty := do
  let old ← typeOfName span name
  let joined ← joinTypes updateReason valueSpan old new
  let file := (← get).file
  modifyBindings fun bindings => (bindings.retype file name joined).getD bindings
  return joined

/-- Assigns a type to a field of an object, which may be new. -/
def updateField (objectSpan valueSpan : Span) (ty : Ty) (field : String) (new : Ty) :
    Check Ty := do
  let object ← expectObject objectSpan ty
  let joined ← match (← get).heap.field? object field with
    | some old => joinTypes updateReason valueSpan old new
    | none => pure new
  modify fun checker => { checker with heap := checker.heap.setField object field joined }
  return joined

/-! ### Assertions -/

/-- Succeeds if a type has a kind. -/
def expectKind (span : Span) (expected : Kind) (ty : Ty) : Check Unit := do
  unless ty.kind = expected do
    fail span (.annotationMismatch expected ty)

/-- The type of a field that an assertion speaks of. -/
def annotatedField (span : Span) (ty : Ty) (field : String) : Check Ty := do
  match ty with
  | .object id =>
    match (← get).heap.field? id field with
    | some found => return found
    | none => fail span (.missingAnnotatedField field ty)
  | _ => fail span (.annotationMismatch .object ty)

mutual

/-- Succeeds if a type is as an annotation describes it. -/
def assertType (annotations : Annotations) (span : Span) (ty : Ty) : Node → Check Unit
  | .mk _ _ (.object fields) => do
    expectKind span .object ty
    assertFields annotations span ty fields
  | .mk place _ (.ident name) => do
    match annotations name with
    | some expected => expectKind span expected ty
    | none => fail place (.unknownKind name)
  | .mk place _ _ => fail place .malformedAssertion

/-- Succeeds if an object has every field of an annotation. -/
def assertFields (annotations : Annotations) (span : Span) (ty : Ty) : List Field → Check Unit
  | [] => return
  | .mk name annotation :: rest => do
    let found ← annotatedField span ty name
    assertType annotations span found annotation
    assertFields annotations span ty rest

end

/-! ### Matches -/

/-- The variant behind a type. -/
def expectVariant (span : Span) (ty : Ty) : Check VariantId :=
  match ty with
  | .variant id => return id
  | _ => fail span (.notAVariant ty)

/-- The argument types with which an arm is to be checked, if it can apply at all. -/
def selectArm (unknown : UnknownArms) (variant : VariantId) : Arm → Check (Option (List Ty))
  | .mk span tag args _ => do
    let heap := (← get).heap
    match heap.tag? variant tag with
    | some expected =>
      if expected.length = args.length then
        return some expected
      else
        fail span (.tagArityMismatch tag expected.length args.length)
    | none =>
      match unknown with
      | .skip =>
        record (.armSkipped tag (heap.text (.variant variant)))
        return none
      | .reject => fail span (.unknownTag tag (.variant variant))

/-- Selects the arms that are to be checked, before any of them is. -/
def selectArms (unknown : UnknownArms) (variant : VariantId) :
    List Arm → Check (List (Option (List Ty)))
  | [] => return []
  | arm :: rest => do
    let choice ← selectArm unknown variant arm
    let choices ← selectArms unknown variant rest
    return choice :: choices

/-- Gives the names in a pattern the types of the arguments they stand for. -/
def bindPattern : List Node → List Ty → Visit (List Node) Unit
  | .mk span slot (.ident name) :: rest, ty :: types =>
    (Visit.assign (.mk span slot (.ident name)) (pure ty)).andThen (· :: rest) fun arg _ =>
      (Visit.settle rest (modifyBindings (·.bind name ⟨ty, span⟩))).andThen (arg :: ·)
        fun rest _ => (bindPattern rest types).within (arg :: ·)
  | arg :: rest, _ :: _ => .settle (arg :: rest) (fail arg.span .patternNotIdent)
  | args, _ => .settle args (pure ())

/-- The type of a match after one more arm. -/
def joinArm (span : Span) (previous : Option Ty) (ty : Ty) : Check Ty :=
  match previous with
  | some expected => joinTypes matchReason span expected ty
  | none => return ty

/-- A match has the type of its arms, of which there has to be one. -/
def typeOfMatch (span : Span) (scrutinee : Ty) (arms : Option Ty) : Check Ty :=
  match arms with
  | some ty => return ty
  | none => fail span (.noMatchingArms scrutinee)

/-! ### Blocks -/

/-- Remembers a block literal and answers with its type. -/
def typeOfBlock (span : Span) (params : List String) (body : Program) : Check Ty := do
  let checker ← get
  let (id, closures) := checker.closures.reserve
  let closure :=
    { params, body := body.fresh, span, file := checker.file, scopes := checker.bindings.scopes }
  modify fun checker => { checker with closures := closures.register id closure }
  return .function id params.length []

end CallTyping
