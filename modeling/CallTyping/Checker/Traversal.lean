/-
This file defines the pass over a tree. The parts of an expression are typed
before the expression itself. Three kinds of parts are left alone at that time:
the body of a block is typed by its calls, the arms of a match once the matched
value is known, and the target of an update once its new value is known.
Annotations have no types.
-/

import CallTyping.Checker.Call

namespace CallTyping

/-- The place of the first child of a call. -/
def calleeSpan : List Node → Span
  | [] => .origin
  | callee :: _ => callee.span

variable (setup : Setup) (run : Runner)

mutual

/-- Types a node that has no type yet. -/
def visitNode (toplevel : Bool) : Node → Visit Node Ty
  | .mk span slot expr =>
    (Visit.settle () (record (.visiting expr.kindName span))).andThen
      (fun _ => .mk span slot expr) fun _ _ =>
        match slot with
        | some ty => .settle (.mk span (some ty) expr) (fail span (.alreadyTyped ty))
        | none => (visitExpr toplevel span expr).asNode span

/-- Types the parts of an expression, and then the expression. -/
def visitExpr (toplevel : Bool) (span : Span) : Expr → Visit Expr Ty
  | .ident name => .settle (.ident name) (typeOfName span name)
  | .literal value => .settle (.literal value) (pure value.type)
  | .call children =>
    (visitNodes false children).andThen .call fun children types =>
      .settle (.call children) (typeOfCall setup run span (calleeSpan children) types)
  | .block params body => .settle (.block params body) (typeOfBlock span params body)
  | .ifThen condition body =>
    (visitNode false condition).andThen (.ifThen · body) fun condition conditionTy =>
      (visitNodes false body).andThen (.ifThen condition ·) fun body _ =>
        .settle (.ifThen condition body) do
          expectBool condition.span conditionTy
          return .unit
  | .ifThenElse condition body alternative =>
    (visitNode false condition).andThen (.ifThenElse · body alternative)
      fun condition conditionTy =>
        (visitNodes false body).andThen (.ifThenElse condition · alternative) fun body types =>
          (visitNodes false alternative).andThen (.ifThenElse condition body ·)
            fun alternative otherTypes =>
              .settle (.ifThenElse condition body alternative)
                (typeOfConditional span condition.span conditionTy (Ty.ofBody types)
                  (Ty.ofBody otherTypes))
  | .whileLoop condition body =>
    (visitNode false condition).andThen (.whileLoop · body) fun condition _ =>
      (visitNodes false body).andThen (.whileLoop condition ·) fun body _ =>
        .settle (.whileLoop condition body) (pure .unit)
  | .caseOf scrutinee arms =>
    (visitNode false scrutinee).andThen (.caseOf · arms) fun scrutinee ty =>
      (Visit.settle () do
        let variant ← expectVariant scrutinee.span ty
        selectArms setup.settings.unknownArms variant arms).andThen
          (fun _ => .caseOf scrutinee arms) fun _ choices =>
            (visitArms span arms choices none).andThen (.caseOf scrutinee ·) fun arms result =>
              .settle (.caseOf scrutinee arms) (typeOfMatch span ty result)
  | .dot target field =>
    (visitNode false target).andThen (.dot · field) fun target ty =>
      .settle (.dot target field) (typeOfField target.span ty field)
  | .update target value =>
    (visitNode false value).andThen (.update target ·) fun value ty =>
      (visitTarget value.span ty target).within (.update · value)
  | .assertion value annotation =>
    (visitNode false value).andThen (.assertion · annotation) fun value ty =>
      .settle (.assertion value annotation) do
        assertType setup.annotations value.span ty annotation
        return ty
  | .object fields =>
    (visitFields fields).andThen .object fun fields types =>
      .settle (.object fields) (newObject types)
  | .variant tag args =>
    (visitNodes false args).andThen (.variant tag ·) fun args types =>
      .settle (.variant tag args) (newVariant tag types)
  | .define name value =>
    (visitNode false value).andThen (.define name ·) fun value ty =>
      .settle (.define name value) (defineName toplevel span name ty)
  | .require name => .settle (.require name) (typeOfRequire setup run span name)
  | .inlay inner =>
    (visitNode false inner).andThen .inlay fun inner ty =>
      .settle (.inlay inner) (noteInlay span ty)

/-- Assigns a type to the target of an update, a variable or a field of a variable. -/
def visitTarget (valueSpan : Span) (new : Ty) : Node → Visit Node Ty
  | .mk span slot (.ident name) =>
    .assign (.mk span slot (.ident name)) (updateVariable span valueSpan name new)
  | .mk span slot (.dot base field) =>
    if base.isIdent then
      (visitNode false base).andThen (fun base => .mk span slot (.dot base field)) fun base ty =>
        .assign (.mk span slot (.dot base field)) (updateField base.span valueSpan ty field new)
    else
      .settle (.mk span slot (.dot base field)) (fail span (.nestedFieldAssign field))
  | .mk span slot expr => .settle (.mk span slot expr) (fail span .invalidAssignTarget)

/-- Types nodes one after the other. -/
def visitNodes (toplevel : Bool) : List Node → Visit (List Node) (List Ty)
  | [] => .settle [] (pure [])
  | node :: rest =>
    (visitNode toplevel node).andThen (· :: rest) fun node ty =>
      (visitNodes toplevel rest).andThen (node :: ·) fun rest types =>
        .settle (node :: rest) (pure (ty :: types))

/-- Types the values of fields one after the other. -/
def visitFields : List Field → Visit (List Field) (List (String × Ty))
  | [] => .settle [] (pure [])
  | .mk name value :: rest =>
    (visitNode false value).andThen (.mk name · :: rest) fun value ty =>
      (visitFields rest).andThen (.mk name value :: ·) fun rest types =>
        .settle (.mk name value :: rest) (pure ((name, ty) :: types))

/-- Types the chosen arms of a match and joins their types. -/
def visitArms (span : Span) :
    List Arm → List (Option (List Ty)) → Option Ty → Visit (List Arm) (Option Ty)
  | arm :: rest, some expected :: choices, previous =>
    (visitArm expected arm).andThen (· :: rest) fun arm ty =>
      (Visit.settle () (joinArm span previous ty)).andThen (fun _ => arm :: rest)
        fun _ joined => (visitArms span rest choices (some joined)).within (arm :: ·)
  | arm :: rest, none :: choices, previous =>
    (visitArms span rest choices previous).within (arm :: ·)
  | arms, _, previous => .settle arms (pure previous)

/-- Types an arm in a scope of its own, with the types of the arguments of its tag. -/
def visitArm (expected : List Ty) : Arm → Visit Arm Ty
  | .mk span tag args body =>
    .between Checker.enterScope Checker.leaveScope <|
      (bindPattern args expected).andThen (Arm.mk span tag · body) fun args _ =>
        (visitNodes false body).andThen (Arm.mk span tag args ·) fun body types =>
          .settle (.mk span tag args body) (pure (Ty.ofBody types))

end

/-- Runs statements, and leaves those that they lead to to `run`. -/
def runStatements : Runner := fun occasion program =>
  visitNodes setup run occasion.isFile program

/-- Runs statements of which calls and requires lead at most `levels` bodies and files further. -/
def runWithin : Nat → Runner
  | 0 => fun _ program => .settle program (throw .exhausted)
  | levels + 1 => runStatements setup (runWithin levels)

end CallTyping
