/-
This file defines programs in which parts are left open. The body of a block can be
left open, and so can an arm of a match. A hole in the place of a body is a
statement that always stops at a place kept for holes. An arm that is left open is
written as two arms that take a different number of arguments, so that a match in
which its tag is known stops at that place as well. Two completions of one sketch
differ in its open parts only.
-/

import CallTyping.Proofs.Outcome

namespace CallTyping

/-! ### Sketches -/

/-- A statement that stops at its place: it assigns to a literal. -/
def Node.hole (place : Span) : Node :=
  .untyped place (.update (.untyped place (.literal (.bool true)))
    (.untyped place (.literal (.bool true))))

/-- A body that is left open. -/
def openBody (place : Span) : Program := [.hole place]

/-- An arm that is left open: no tag has both no argument and one. -/
def openArms (place : Span) (tag : String) : List Arm :=
  [.mk place tag [] [], .mk place tag [.hole place] []]

mutual

/-- A node completes another one if it differs in open parts only. -/
inductive CompletesNode (place : Span) : Node → Node → Prop where
  | mk (span : Span) (slot : Option Ty) {sketch full : Expr} :
    CompletesExpr place sketch full →
      CompletesNode place (.mk span slot sketch) (.mk span slot full)

inductive CompletesExpr (place : Span) : Expr → Expr → Prop where
  | ident (name : String) : CompletesExpr place (.ident name) (.ident name)
  | literal (value : Literal) : CompletesExpr place (.literal value) (.literal value)
  | call {children children' : List Node} : CompletesNodes place children children' →
    CompletesExpr place (.call children) (.call children')
  | block (params : List String) {body body' : List Node} : CompletesNodes place body body' →
    CompletesExpr place (.block params body) (.block params body')
  /-- A body that is left open can be any. -/
  | openBlock (params : List String) (body : List Node) :
    CompletesExpr place (.block params (openBody place)) (.block params body)
  | ifThen {condition condition' : Node} {body body' : List Node} :
    CompletesNode place condition condition' → CompletesNodes place body body' →
      CompletesExpr place (.ifThen condition body) (.ifThen condition' body')
  | ifThenElse {condition condition' : Node} {body body' alternative alternative' : List Node} :
    CompletesNode place condition condition' → CompletesNodes place body body' →
      CompletesNodes place alternative alternative' →
        CompletesExpr place (.ifThenElse condition body alternative)
          (.ifThenElse condition' body' alternative')
  | whileLoop {condition condition' : Node} {body body' : List Node} :
    CompletesNode place condition condition' → CompletesNodes place body body' →
      CompletesExpr place (.whileLoop condition body) (.whileLoop condition' body')
  | caseOf {scrutinee scrutinee' : Node} {arms arms' : List Arm} :
    CompletesNode place scrutinee scrutinee' → CompletesArms place arms arms' →
      CompletesExpr place (.caseOf scrutinee arms) (.caseOf scrutinee' arms')
  | dot {target target' : Node} (field : String) : CompletesNode place target target' →
    CompletesExpr place (.dot target field) (.dot target' field)
  | update {target target' value value' : Node} : CompletesNode place target target' →
    CompletesNode place value value' →
      CompletesExpr place (.update target value) (.update target' value')
  | assertion {value value' annotation annotation' : Node} : CompletesNode place value value' →
    CompletesNode place annotation annotation' →
      CompletesExpr place (.assertion value annotation) (.assertion value' annotation')
  | object {fields fields' : List Field} : CompletesFields place fields fields' →
    CompletesExpr place (.object fields) (.object fields')
  | variant (tag : String) {args args' : List Node} : CompletesNodes place args args' →
    CompletesExpr place (.variant tag args) (.variant tag args')
  | define (name : String) {value value' : Node} : CompletesNode place value value' →
    CompletesExpr place (.define name value) (.define name value')
  | require (name : String) : CompletesExpr place (.require name) (.require name)
  | inlay {inner inner' : Node} : CompletesNode place inner inner' →
    CompletesExpr place (.inlay inner) (.inlay inner')

inductive CompletesNodes (place : Span) : List Node → List Node → Prop where
  | nil : CompletesNodes place [] []
  | cons {node node' : Node} {rest rest' : List Node} : CompletesNode place node node' →
    CompletesNodes place rest rest' → CompletesNodes place (node :: rest) (node' :: rest')

inductive CompletesFields (place : Span) : List Field → List Field → Prop where
  | nil : CompletesFields place [] []
  | cons (name : String) {value value' : Node} {rest rest' : List Field} :
    CompletesNode place value value' → CompletesFields place rest rest' →
      CompletesFields place (.mk name value :: rest) (.mk name value' :: rest')

inductive CompletesArm (place : Span) : Arm → Arm → Prop where
  | mk (span : Span) (tag : String) {args args' body body' : List Node} :
    CompletesNodes place args args' → CompletesNodes place body body' →
      CompletesArm place (.mk span tag args body) (.mk span tag args' body')

inductive CompletesArms (place : Span) : List Arm → List Arm → Prop where
  | nil : CompletesArms place [] []
  | cons {arm arm' : Arm} {rest rest' : List Arm} : CompletesArm place arm arm' →
    CompletesArms place rest rest' → CompletesArms place (arm :: rest) (arm' :: rest')
  /-- An arm that is left open can be any with this tag. -/
  | openArm (span : Span) (tag : String) (args body : List Node) {rest rest' : List Arm} :
    CompletesArms place rest rest' →
      CompletesArms place (openArms place tag ++ rest) (.mk span tag args body :: rest')

end

/-! ### Programs without open parts -/

section

variable (place : Span)

mutual

theorem CompletesNode.refl : (node : Node) → CompletesNode place node node
  | .mk span slot expr => .mk span slot (CompletesExpr.refl expr)

theorem CompletesExpr.refl : (expr : Expr) → CompletesExpr place expr expr
  | .ident name => .ident name
  | .literal value => .literal value
  | .call children => .call (CompletesNodes.refl children)
  | .block params body => .block params (CompletesNodes.refl body)
  | .ifThen condition body => .ifThen (CompletesNode.refl condition) (CompletesNodes.refl body)
  | .ifThenElse condition body alternative =>
    .ifThenElse (CompletesNode.refl condition) (CompletesNodes.refl body)
      (CompletesNodes.refl alternative)
  | .whileLoop condition body =>
    .whileLoop (CompletesNode.refl condition) (CompletesNodes.refl body)
  | .caseOf scrutinee arms => .caseOf (CompletesNode.refl scrutinee) (CompletesArms.refl arms)
  | .dot target field => .dot field (CompletesNode.refl target)
  | .update target value => .update (CompletesNode.refl target) (CompletesNode.refl value)
  | .assertion value annotation =>
    .assertion (CompletesNode.refl value) (CompletesNode.refl annotation)
  | .object fields => .object (CompletesFields.refl fields)
  | .variant tag args => .variant tag (CompletesNodes.refl args)
  | .define name value => .define name (CompletesNode.refl value)
  | .require name => .require name
  | .inlay inner => .inlay (CompletesNode.refl inner)

theorem CompletesNodes.refl : (nodes : List Node) → CompletesNodes place nodes nodes
  | [] => .nil
  | node :: rest => .cons (CompletesNode.refl node) (CompletesNodes.refl rest)

theorem CompletesFields.refl : (fields : List Field) → CompletesFields place fields fields
  | [] => .nil
  | .mk name value :: rest => .cons name (CompletesNode.refl value) (CompletesFields.refl rest)

theorem CompletesArm.refl : (arm : Arm) → CompletesArm place arm arm
  | .mk span tag args body => .mk span tag (CompletesNodes.refl args) (CompletesNodes.refl body)

theorem CompletesArms.refl : (arms : List Arm) → CompletesArms place arms arms
  | [] => .nil
  | arm :: rest => .cons (CompletesArm.refl arm) (CompletesArms.refl rest)

end

end

/-! ### Fresh copies -/

variable {place : Span}

/-- A body completes another one node by node, or that one is left open. -/
inductive CompletesBody (place : Span) : Program → Program → Prop where
  | whole {body body' : Program} : CompletesNodes place body body' →
    CompletesBody place body body'
  | opened (body : Program) : CompletesBody place (openBody place) body

mutual

theorem CompletesNode.fresh : (sketch : Node) → {full : Node} →
    CompletesNode place sketch full → CompletesNode place sketch.fresh full.fresh
  | .mk span _ sketch, _, .mk _ _ completes => .mk span none (CompletesExpr.fresh sketch completes)

theorem CompletesExpr.fresh : (sketch : Expr) → {full : Expr} →
    CompletesExpr place sketch full → CompletesExpr place sketch.fresh full.fresh
  | .ident name, _, .ident _ => .ident name
  | .literal value, _, .literal _ => .literal value
  | .call children, _, .call completes => .call (CompletesNodes.fresh children completes)
  | .block params body, _, .block _ completes =>
    .block params (CompletesNodes.fresh body completes)
  | .block params _, _, .openBlock _ body => .openBlock params (freshNodes body)
  | .ifThen condition body, _, .ifThen inCondition inBody =>
    .ifThen (CompletesNode.fresh condition inCondition) (CompletesNodes.fresh body inBody)
  | .ifThenElse condition body alternative, _, .ifThenElse inCondition inBody inAlternative =>
    .ifThenElse (CompletesNode.fresh condition inCondition) (CompletesNodes.fresh body inBody)
      (CompletesNodes.fresh alternative inAlternative)
  | .whileLoop condition body, _, .whileLoop inCondition inBody =>
    .whileLoop (CompletesNode.fresh condition inCondition) (CompletesNodes.fresh body inBody)
  | .caseOf scrutinee arms, _, .caseOf inScrutinee inArms =>
    .caseOf (CompletesNode.fresh scrutinee inScrutinee) (CompletesArms.fresh arms inArms)
  | .dot target field, _, .dot _ inTarget => .dot field (CompletesNode.fresh target inTarget)
  | .update target value, _, .update inTarget inValue =>
    .update (CompletesNode.fresh target inTarget) (CompletesNode.fresh value inValue)
  | .assertion value annotation, _, .assertion inValue inAnnotation =>
    .assertion (CompletesNode.fresh value inValue) (CompletesNode.fresh annotation inAnnotation)
  | .object fields, _, .object completes => .object (CompletesFields.fresh fields completes)
  | .variant tag args, _, .variant _ completes =>
    .variant tag (CompletesNodes.fresh args completes)
  | .define name value, _, .define _ inValue => .define name (CompletesNode.fresh value inValue)
  | .require name, _, .require _ => .require name
  | .inlay inner, _, .inlay inInner => .inlay (CompletesNode.fresh inner inInner)

theorem CompletesNodes.fresh : (sketch : List Node) → {full : List Node} →
    CompletesNodes place sketch full → CompletesNodes place (freshNodes sketch) (freshNodes full)
  | [], _, .nil => .nil
  | node :: rest, _, .cons inNode inRest =>
    .cons (CompletesNode.fresh node inNode) (CompletesNodes.fresh rest inRest)

theorem CompletesFields.fresh : (sketch : List Field) → {full : List Field} →
    CompletesFields place sketch full →
      CompletesFields place (freshFields sketch) (freshFields full)
  | [], _, .nil => .nil
  | .mk name value :: rest, _, .cons _ inValue inRest =>
    .cons name (CompletesNode.fresh value inValue) (CompletesFields.fresh rest inRest)

theorem CompletesArm.fresh : (sketch : Arm) → {full : Arm} →
    CompletesArm place sketch full → CompletesArm place sketch.fresh full.fresh
  | .mk span tag args body, _, .mk _ _ inArgs inBody =>
    .mk span tag (CompletesNodes.fresh args inArgs) (CompletesNodes.fresh body inBody)

theorem CompletesArms.fresh : (sketch : List Arm) → {full : List Arm} →
    CompletesArms place sketch full → CompletesArms place (freshArms sketch) (freshArms full)
  | [], _, .nil => .nil
  | arm :: rest, _, .cons inArm inRest =>
    .cons (CompletesArm.fresh arm inArm) (CompletesArms.fresh rest inRest)
  | _ :: _ :: rest, _, .openArm span tag args body inRest =>
    .openArm span tag (freshNodes args) (freshNodes body) (CompletesArms.fresh rest inRest)

end

/-- What is remembered of completed bodies are completed bodies. -/
theorem CompletesBody.fresh {body body' : Program} (completes : CompletesBody place body body') :
    CompletesBody place body.fresh body'.fresh := by
  cases completes with
  | whole completes => exact .whole completes.fresh
  | opened => exact .opened body'.fresh

end CallTyping
