/-
This file proves which nodes of a tree have types after a pass that gives an answer.
Three kinds of parts are left without: the bodies of blocks, annotations, and the
arms of a match that were skipped. All other nodes have a type, in a match those of
one arm at least. The pass fills slots and changes nothing else of the tree. What
calls and loads do plays no part here.
-/

import CallTyping.Proofs.Outcome
import CallTyping.Syntax.Preorder
import Mathlib.Data.List.Forall2

namespace CallTyping

/-! ### Nodes without types -/

/-- None of these nodes has a type. -/
def Blank (nodes : List Node) : Prop := ∀ node ∈ nodes, node.isTyped = false

theorem blank_cons {node : Node} {rest : List Node} :
    Blank (node :: rest) ↔ node.isTyped = false ∧ Blank rest :=
  List.forall_mem_cons

theorem blank_append {left right : List Node} :
    Blank (left ++ right) ↔ Blank left ∧ Blank right :=
  List.forall_mem_append

mutual

/-- The nodes of a fresh copy are fresh copies of the nodes. -/
theorem Node.preorder_fresh : (node : Node) → node.fresh.preorder = node.preorder.map Node.fresh
  | .mk _ _ expr => by
    simp only [Node.fresh, Node.preorder, List.map_cons, Expr.preorder_fresh expr]

theorem Expr.preorder_fresh : (expr : Expr) → expr.fresh.preorder = expr.preorder.map Node.fresh
  | .ident _ | .literal _ | .require _ => rfl
  | .call nodes | .block _ nodes | .variant _ nodes => by
    simp only [Expr.fresh, Expr.preorder, preorder_freshNodes nodes]
  | .ifThen condition body | .whileLoop condition body => by
    simp only [Expr.fresh, Expr.preorder, List.map_append, Node.preorder_fresh condition,
      preorder_freshNodes body]
  | .ifThenElse condition body alternative => by
    simp only [Expr.fresh, Expr.preorder, List.map_append, Node.preorder_fresh condition,
      preorder_freshNodes body, preorder_freshNodes alternative]
  | .caseOf scrutinee arms => by
    simp only [Expr.fresh, Expr.preorder, List.map_append, Node.preorder_fresh scrutinee,
      preorder_freshArms arms]
  | .dot node _ | .define _ node | .inlay node => by
    simp only [Expr.fresh, Expr.preorder, Node.preorder_fresh node]
  | .update node other | .assertion node other => by
    simp only [Expr.fresh, Expr.preorder, List.map_append, Node.preorder_fresh node,
      Node.preorder_fresh other]
  | .object fields => by
    simp only [Expr.fresh, Expr.preorder, preorder_freshFields fields]

theorem preorder_freshNodes : (nodes : List Node) →
    preorderNodes (freshNodes nodes) = (preorderNodes nodes).map Node.fresh
  | [] => rfl
  | node :: rest => by
    simp only [freshNodes, preorderNodes, List.map_append, Node.preorder_fresh node,
      preorder_freshNodes rest]

theorem preorder_freshArms : (arms : List Arm) →
    preorderArms (freshArms arms) = (preorderArms arms).map Node.fresh
  | [] => rfl
  | .mk _ _ args body :: rest => by
    simp only [freshArms, preorderArms, Arm.fresh, Arm.preorder, List.map_append,
      preorder_freshNodes args, preorder_freshNodes body, preorder_freshArms rest]

theorem preorder_freshFields : (fields : List Field) →
    preorderFields (freshFields fields) = (preorderFields fields).map Node.fresh
  | [] => rfl
  | .mk _ value :: rest => by
    simp only [freshFields, preorderFields, Field.fresh, Field.preorder, List.map_append,
      Node.preorder_fresh value, preorder_freshFields rest]

end

/-- A fresh copy has no types. -/
theorem blank_freshNodes (nodes : List Node) : Blank (preorderNodes (freshNodes nodes)) := by
  rw [preorder_freshNodes]
  intro node member
  obtain ⟨⟨span, slot, expr⟩, -, rfl⟩ := List.mem_map.mp member
  rfl

/-! ### Nodes with types -/

mutual

/-- A node that has a type, and so have the nodes inside it that are to have one. -/
def Node.Covered : Node → Prop
  | .mk _ slot expr => slot.isSome = true ∧ expr.Covered

def Expr.Covered : Expr → Prop
  | .ident _ => True
  | .literal _ => True
  | .call children => CoveredNodes children
  | .block _ body => Blank (preorderNodes body)
  | .ifThen condition body => condition.Covered ∧ CoveredNodes body
  | .ifThenElse condition body alternative =>
    condition.Covered ∧ CoveredNodes body ∧ CoveredNodes alternative
  | .whileLoop condition body => condition.Covered ∧ CoveredNodes body
  | .caseOf scrutinee arms => scrutinee.Covered ∧ SettledArms arms ∧ ReachedArms arms
  | .dot target _ => target.Covered
  | .update target value => target.Covered ∧ value.Covered
  | .assertion value described => value.Covered ∧ Blank described.preorder
  | .object fields => CoveredFields fields
  | .variant _ args => CoveredNodes args
  | .define _ value => value.Covered
  | .require _ => True
  | .inlay inner => inner.Covered

def Arm.Covered : Arm → Prop
  | .mk _ _ args body => CoveredNodes args ∧ CoveredNodes body

def Field.Covered : Field → Prop
  | .mk _ value => value.Covered

def CoveredNodes : List Node → Prop
  | [] => True
  | node :: rest => node.Covered ∧ CoveredNodes rest

/-- Every arm is covered as a whole, or nothing in it has a type. -/
def SettledArms : List Arm → Prop
  | [] => True
  | arm :: rest => (arm.Covered ∨ Blank arm.preorder) ∧ SettledArms rest

/-- Some arm is covered. -/
def ReachedArms : List Arm → Prop
  | [] => False
  | arm :: rest => arm.Covered ∨ ReachedArms rest

def CoveredFields : List Field → Prop
  | [] => True
  | field :: rest => field.Covered ∧ CoveredFields rest

end

/-! ### What visits give back -/

variable {α β γ δ : Type}

/-- What every answer of a step is like. -/
def Answers (step : Check α) (good : α → Prop) : Prop :=
  ∀ checker answer, (step.outcome checker).1 = .ok answer → good answer

namespace Answers

theorem pure {answer : α} {good : α → Prop} (fine : good answer) :
    Answers (Pure.pure answer) good := by
  rintro checker _ ⟨⟩
  exact fine

theorem fail {span : Span} {fault : Fault} {good : α → Prop} :
    Answers (CallTyping.fail span fault) good := nofun

theorem bind {step : Check α} {next : α → Check β} {good : α → Prop} {goal : β → Prop}
    (first : Answers step good) (rest : ∀ answer, good answer → Answers (next answer) goal) :
    Answers (step >>= next) goal := by
  intro checker answer answered
  rcases result : step.outcome checker with ⟨stop | found, after⟩
  · rw [Check.outcome_bind_error result] at answered
    cases answered
  · rw [Check.outcome_bind_ok result] at answered
    exact rest found (first checker found (congrArg Prod.fst result)) after answer answered

theorem any (step : Check α) : Answers step fun _ => True := fun _ _ _ => trivial

end Answers

/-- What the piece is like that a visit gives back, and what it is like beside an answer. -/
def Yields (visit : Visit α β) (kept : α → Prop) (good : α → β → Prop) : Prop :=
  ∀ checker, kept (visit checker).1.1 ∧
    ∀ answer, (visit checker).1.2 = .ok answer → good (visit checker).1.1 answer

namespace Yields

theorem settle {tree : α} {step : Check β} {kept : α → Prop} {good : α → β → Prop}
    (same : kept tree) (answers : Answers step (good tree)) :
    Yields (.settle tree step) kept good :=
  fun checker => ⟨same, answers checker⟩

theorem andThen {visit : Visit α β} {around : α → γ} {next : α → β → Visit γ δ}
    {kept : α → Prop} {good : α → β → Prop} {kept' : γ → Prop} {good' : γ → δ → Prop}
    (first : Yields visit kept good) (surround : ∀ piece, kept piece → kept' (around piece))
    (rest : ∀ piece found, kept piece → good piece found → Yields (next piece found) kept' good') :
    Yields (visit.andThen around next) kept' good' := by
  intro checker
  obtain ⟨isKept, isGood⟩ := first checker
  rcases result : visit checker with ⟨⟨piece, stop | found⟩, after⟩
  · rw [result] at isKept
    rw [Visit.andThen_error result]
    exact ⟨surround piece isKept, nofun⟩
  · rw [result] at isKept isGood
    rw [Visit.andThen_ok result]
    exact rest piece found isKept (isGood found rfl) after

/-- A step after a visit leaves the piece as the visit gave it back. -/
theorem andSettle {visit : Visit α β} {around : α → γ} {step : α → β → Check δ}
    {kept : α → Prop} {good : α → β → Prop} {kept' : γ → Prop} {good' : γ → Prop}
    (first : Yields visit kept good) (surround : ∀ piece, kept piece → kept' (around piece))
    (better : ∀ piece found, good piece found → good' (around piece)) :
    Yields (visit.andThen around fun piece found => .settle (around piece) (step piece found))
      kept' fun piece _ => good' piece :=
  first.andThen surround fun piece found isKept isGood =>
    settle (surround piece isKept) fun _ _ _ => better piece found isGood

theorem within {visit : Visit α β} {around : α → γ} {kept : α → Prop} {good : α → β → Prop}
    {kept' : γ → Prop} {good' : γ → β → Prop} (yields : Yields visit kept good)
    (surround : ∀ piece, kept piece → kept' (around piece))
    (better : ∀ piece answer, kept piece → good piece answer → good' (around piece) answer) :
    Yields (visit.within around) kept' good' := fun checker =>
  ⟨surround _ (yields checker).1, fun answer answered =>
    better _ answer (yields checker).1 ((yields checker).2 answer answered)⟩

theorem between {before after : Checker → Checker} {visit : Visit α β} {kept : α → Prop}
    {good : α → β → Prop} (yields : Yields visit kept good) :
    Yields (visit.between before after) kept good :=
  fun checker => yields (before checker)

/-- The node of an expression has the answer in its slot. -/
theorem asNode {visit : Visit Expr Ty} {span : Span} {slot : Option Ty} {expr : Expr}
    (yields : Yields visit (fun typed => typed.fresh = expr.fresh) fun typed _ => typed.Covered) :
    Yields (visit.asNode span) (fun typed => typed.fresh = (Node.mk span slot expr).fresh)
      fun typed ty => typed.Covered ∧ typed.slot = some ty := by
  intro checker
  obtain ⟨isKept, isGood⟩ := yields checker
  unfold Visit.asNode
  rcases result : visit checker with ⟨⟨typed, stop | ty⟩, after⟩
  · rw [result] at isKept
    exact ⟨congrArg (Node.mk span none) isKept, nofun⟩
  · rw [result] at isKept isGood
    refine ⟨congrArg (Node.mk span none) isKept, ?_⟩
    rintro _ ⟨⟩
    exact ⟨⟨rfl, isGood ty rfl⟩, rfl⟩

/-- The slot of a node that is assigned has the answer in it. -/
theorem assign {span : Span} {expr : Expr} {source : Node} {step : Check Ty}
    (same : (Node.mk span none expr).fresh = source.fresh) (covered : expr.Covered) :
    Yields (Visit.assign (.mk span none expr) step) (fun typed => typed.fresh = source.fresh)
      fun typed ty => typed.Covered ∧ typed.slot = some ty := by
  have stays : Yields (.settle (Node.mk span none expr) step) (· = .mk span none expr)
      fun _ _ => True := settle rfl (Answers.any step)
  refine stays.andThen ?_ ?_
  · rintro _ rfl
    exact same
  · rintro _ ty rfl _
    exact settle same (Answers.pure ⟨⟨rfl, covered⟩, rfl⟩)

end Yields

/-! ### Patterns and selected arms -/

/-- The nodes of a pattern. -/
def Arm.pattern : Arm → List Node
  | .mk _ _ args _ => args

/-- An arm that was selected has as many nodes in its pattern as there are types for them. -/
def Selected (arm : Arm) (choice : Option (List Ty)) : Prop :=
  ∀ types ∈ choice, types.length = arm.pattern.length

theorem selectArm_answers (unknown : UnknownArms) (variant : VariantId) (arm : Arm) :
    Answers (selectArm unknown variant arm) (Selected arm) := by
  obtain ⟨span, tag, args, body⟩ := arm
  refine (Answers.any _).bind fun checker _ => ?_
  dsimp only
  split
  next expected _ =>
    split
    next equal =>
      refine Answers.pure fun types chosen => ?_
      rw [← Option.mem_some.mp chosen]
      exact equal
    next => exact Answers.fail
  next =>
    split
    · refine (Answers.any _).bind fun _ _ => Answers.pure fun types chosen => ?_
      exact absurd chosen (Option.not_mem_none types)
    · exact Answers.fail

theorem selectArms_answers (unknown : UnknownArms) (variant : VariantId) (arms : List Arm) :
    Answers (selectArms unknown variant arms) (List.Forall₂ Selected arms) := by
  induction arms with
  | nil => exact Answers.pure .nil
  | cons arm rest inductionHypothesis =>
    exact (selectArm_answers unknown variant arm).bind fun _ chosen =>
      inductionHypothesis.bind fun _ others => Answers.pure (.cons chosen others)

/-- A pattern with a type for each of its nodes is covered. -/
theorem bindPattern_yields : (args : List Node) → (types : List Ty) →
    types.length = args.length → Blank (preorderNodes args) →
    Yields (bindPattern args types) (fun typed => freshNodes typed = freshNodes args)
      fun typed _ => CoveredNodes typed
  | .mk span slot (.ident name) :: rest, ty :: types, lengths, blank => by
    simp only [preorderNodes, Node.preorder, List.cons_append, blank_cons] at blank
    obtain ⟨empty, others⟩ := blank
    cases slot with
    | some _ => cases empty
    | none =>
      simp only [bindPattern]
      refine Yields.andThen (Yields.assign rfl trivial)
        (fun arg same => by simp only [freshNodes, same]) fun arg _ same covered => ?_
      have stays : Yields (.settle rest (modifyBindings (·.bind name ⟨ty, span⟩))) (rest = ·)
          fun _ _ => True := Yields.settle rfl (Answers.any _)
      refine stays.andThen ?_ ?_
      · rintro _ rfl
        simp only [freshNodes, same]
      · rintro _ _ rfl _
        refine (bindPattern_yields rest types (Nat.succ.inj lengths) (blank_append.mp others).2
          ).within (fun typed same' => by simp only [freshNodes, same, same']) ?_
        exact fun typed _ _ covered' => ⟨covered.1, covered'⟩
  | .mk _ _ (.literal _) :: _, _ :: _, _, _ | .mk _ _ (.call _) :: _, _ :: _, _, _
  | .mk _ _ (.block _ _) :: _, _ :: _, _, _ | .mk _ _ (.ifThen _ _) :: _, _ :: _, _, _
  | .mk _ _ (.ifThenElse _ _ _) :: _, _ :: _, _, _ | .mk _ _ (.whileLoop _ _) :: _, _ :: _, _, _
  | .mk _ _ (.caseOf _ _) :: _, _ :: _, _, _ | .mk _ _ (.dot _ _) :: _, _ :: _, _, _
  | .mk _ _ (.update _ _) :: _, _ :: _, _, _ | .mk _ _ (.assertion _ _) :: _, _ :: _, _, _
  | .mk _ _ (.object _) :: _, _ :: _, _, _ | .mk _ _ (.variant _ _) :: _, _ :: _, _, _
  | .mk _ _ (.define _ _) :: _, _ :: _, _, _ | .mk _ _ (.require _) :: _, _ :: _, _, _
  | .mk _ _ (.inlay _) :: _, _ :: _, _, _ => Yields.settle rfl Answers.fail
  | [], [], _, _ => by
    unfold bindPattern
    exact Yields.settle rfl fun _ _ _ => trivial
  | _ :: _, [], lengths, _ => nomatch lengths
  | [], _ :: _, lengths, _ => nomatch lengths

/-! ### The pass over a tree -/

/-- The name of a field and the type of its value, once it is known. -/
def Field.entry : Field → String × Option Ty
  | .mk name value => (name, value.slot)

/-- A match that has a type has an arm that was typed. -/
theorem typeOfMatch_answers (span : Span) (scrutinee : Ty) (result : Option Ty) :
    Answers (typeOfMatch span scrutinee result) fun _ => result.isSome = true := by
  cases result with
  | some ty => exact Answers.pure rfl
  | none => exact Answers.fail

section

variable (setup : Setup) (run : Runner)

mutual

theorem visitNode_yields (toplevel : Bool) : (node : Node) → Blank node.preorder →
    Yields (visitNode setup run toplevel node) (fun typed => typed.fresh = node.fresh)
      fun typed ty => typed.Covered ∧ typed.slot = some ty
  | .mk span slot expr, blank => by
    simp only [Node.preorder, blank_cons] at blank
    obtain ⟨empty, inside⟩ := blank
    cases slot with
    | some _ => cases empty
    | none =>
      simp only [visitNode]
      have noted : Yields (.settle () (record (.visiting expr.kindName span))) (fun _ => True)
          fun _ _ => True := Yields.settle trivial (Answers.any _)
      exact noted.andThen (fun _ _ => rfl) fun _ _ _ _ =>
        (visitExpr_yields toplevel span expr inside).asNode

theorem visitExpr_yields (toplevel : Bool) (span : Span) : (expr : Expr) → Blank expr.preorder →
    Yields (visitExpr setup run toplevel span expr) (fun typed => typed.fresh = expr.fresh)
      fun typed _ => typed.Covered
  | .ident name, _ => by
    simp only [visitExpr]
    exact Yields.settle rfl fun _ _ _ => trivial
  | .literal value, _ => by
    simp only [visitExpr]
    exact Yields.settle rfl fun _ _ _ => trivial
  | .call children, blank => by
    simp only [visitExpr]
    exact (visitNodes_yields false children blank).andSettle
      (fun _ same => congrArg Expr.call same) fun _ _ covered => covered.1
  | .block params body, blank => by
    simp only [visitExpr]
    exact Yields.settle rfl fun _ _ _ => blank
  | .ifThen condition body, blank => by
    simp only [visitExpr]
    obtain ⟨blankCondition, blankBody⟩ := blank_append.mp blank
    refine (visitNode_yields false condition blankCondition).andThen
      (fun _ same => by simp only [Expr.fresh, same]) fun _ _ same covered => ?_
    exact (visitNodes_yields false body blankBody).andSettle
      (fun _ same' => by simp only [Expr.fresh, same, same'])
      fun _ _ covered' => ⟨covered.1, covered'.1⟩
  | .ifThenElse condition body alternative, blank => by
    simp only [visitExpr]
    obtain ⟨blankBoth, blankAlternative⟩ := blank_append.mp blank
    obtain ⟨blankCondition, blankBody⟩ := blank_append.mp blankBoth
    refine (visitNode_yields false condition blankCondition).andThen
      (fun _ same => by simp only [Expr.fresh, same]) fun _ _ same covered => ?_
    refine (visitNodes_yields false body blankBody).andThen
      (fun _ same' => by simp only [Expr.fresh, same, same']) fun _ _ same' covered' => ?_
    exact (visitNodes_yields false alternative blankAlternative).andSettle
      (fun _ last => by simp only [Expr.fresh, same, same', last])
      fun _ _ coveredLast => ⟨covered.1, covered'.1, coveredLast.1⟩
  | .whileLoop condition body, blank => by
    simp only [visitExpr]
    obtain ⟨blankCondition, blankBody⟩ := blank_append.mp blank
    refine (visitNode_yields false condition blankCondition).andThen
      (fun _ same => by simp only [Expr.fresh, same]) fun _ _ same covered => ?_
    exact (visitNodes_yields false body blankBody).andSettle
      (fun _ same' => by simp only [Expr.fresh, same, same'])
      fun _ _ covered' => ⟨covered.1, covered'.1⟩
  | .caseOf scrutinee arms, blank => by
    simp only [visitExpr]
    obtain ⟨blankScrutinee, blankArms⟩ := blank_append.mp blank
    refine (visitNode_yields false scrutinee blankScrutinee).andThen
      (fun _ same => by simp only [Expr.fresh, same]) fun scrutinee ty same covered => ?_
    have chosen : Yields (.settle () (expectVariant scrutinee.span ty >>= fun variant =>
        selectArms setup.settings.unknownArms variant arms)) (fun _ => True)
        fun _ choices => List.Forall₂ Selected arms choices :=
      Yields.settle trivial
        ((Answers.any _).bind fun variant _ => selectArms_answers _ variant arms)
    refine chosen.andThen (fun _ _ => by simp only [Expr.fresh, same])
      fun _ choices _ selected => ?_
    refine (visitArms_yields span arms choices none selected blankArms).andThen
      (fun _ same' => by simp only [Expr.fresh, same, same']) fun arms result same' settled => ?_
    refine Yields.settle (by simp only [Expr.fresh, same, same']) fun checker answer answered => ?_
    have reached := settled.2 rfl (typeOfMatch_answers span ty result checker answer answered)
    exact ⟨covered.1, settled.1, reached⟩
  | .dot target field, blank => by
    simp only [visitExpr]
    exact (visitNode_yields false target blank).andSettle
      (fun _ same => by simp only [Expr.fresh, same]) fun _ _ covered => covered.1
  | .update target value, blank => by
    simp only [visitExpr]
    obtain ⟨blankTarget, blankValue⟩ := blank_append.mp blank
    refine (visitNode_yields false value blankValue).andThen
      (fun _ same => by simp only [Expr.fresh, same]) fun value ty same covered => ?_
    exact (visitTarget_yields value.span ty target blankTarget).within
      (fun _ same' => by simp only [Expr.fresh, same, same'])
      fun _ _ _ covered' => ⟨covered'.1, covered.1⟩
  | .assertion value described, blank => by
    simp only [visitExpr]
    obtain ⟨blankValue, blankDescribed⟩ := blank_append.mp blank
    exact (visitNode_yields false value blankValue).andSettle
      (fun _ same => by simp only [Expr.fresh, same])
      fun _ _ covered => ⟨covered.1, blankDescribed⟩
  | .object fields, blank => by
    simp only [visitExpr]
    exact (visitFields_yields fields blank).andSettle
      (fun _ same => congrArg Expr.object same) fun _ _ covered => covered.1
  | .variant tag args, blank => by
    simp only [visitExpr]
    exact (visitNodes_yields false args blank).andSettle
      (fun _ same => congrArg (Expr.variant tag) same) fun _ _ covered => covered.1
  | .define name value, blank => by
    simp only [visitExpr]
    exact (visitNode_yields false value blank).andSettle
      (fun _ same => congrArg (Expr.define name) same) fun _ _ covered => covered.1
  | .require name, _ => by
    simp only [visitExpr]
    exact Yields.settle rfl fun _ _ _ => trivial
  | .inlay inner, blank => by
    simp only [visitExpr]
    exact (visitNode_yields false inner blank).andSettle
      (fun _ same => congrArg Expr.inlay same) fun _ _ covered => covered.1

theorem visitTarget_yields (valueSpan : Span) (new : Ty) : (target : Node) →
    Blank target.preorder →
    Yields (visitTarget setup run valueSpan new target) (fun typed => typed.fresh = target.fresh)
      fun typed ty => typed.Covered ∧ typed.slot = some ty
  | .mk span slot (.ident name), blank => by
    simp only [Node.preorder, blank_cons] at blank
    cases slot with
    | some _ => cases blank.1
    | none =>
      simp only [visitTarget]
      exact Yields.assign rfl trivial
  | .mk span slot (.dot base field), blank => by
    simp only [Node.preorder, blank_cons] at blank
    obtain ⟨empty, inside⟩ := blank
    cases slot with
    | some _ => cases empty
    | none =>
      simp only [visitTarget]
      split
      · refine (visitNode_yields false base inside).andThen
          (fun _ same => by simp only [Node.fresh, Expr.fresh, same]) fun _ _ same covered => ?_
        exact Yields.assign (by simp only [Node.fresh, Expr.fresh, same]) covered.1
      · exact Yields.settle rfl Answers.fail
  | .mk span _ (.literal _), _ | .mk span _ (.call _), _ | .mk span _ (.block _ _), _
  | .mk span _ (.ifThen _ _), _ | .mk span _ (.ifThenElse _ _ _), _
  | .mk span _ (.whileLoop _ _), _ | .mk span _ (.caseOf _ _), _ | .mk span _ (.update _ _), _
  | .mk span _ (.assertion _ _), _ | .mk span _ (.object _), _ | .mk span _ (.variant _ _), _
  | .mk span _ (.define _ _), _ | .mk span _ (.require _), _ | .mk span _ (.inlay _), _ => by
    simp only [visitTarget]
    exact Yields.settle rfl Answers.fail

theorem visitNodes_yields (toplevel : Bool) : (nodes : List Node) → Blank (preorderNodes nodes) →
    Yields (visitNodes setup run toplevel nodes) (fun typed => freshNodes typed = freshNodes nodes)
      fun typed types => CoveredNodes typed ∧ typed.map Node.slot = types.map some
  | [], _ => by
    simp only [visitNodes]
    exact Yields.settle rfl (Answers.pure ⟨trivial, rfl⟩)
  | node :: rest, blank => by
    simp only [visitNodes]
    obtain ⟨blankNode, blankRest⟩ := blank_append.mp blank
    refine (visitNode_yields toplevel node blankNode).andThen
      (fun _ same => by simp only [freshNodes, same]) fun node ty same covered => ?_
    refine (visitNodes_yields toplevel rest blankRest).andThen
      (fun _ same' => by simp only [freshNodes, same, same']) fun rest types same' covered' => ?_
    refine Yields.settle (by simp only [freshNodes, same, same'])
      (Answers.pure ⟨⟨covered.1, covered'.1⟩, ?_⟩)
    rw [List.map_cons, List.map_cons, covered.2, covered'.2]

theorem visitFields_yields : (fields : List Field) → Blank (preorderFields fields) →
    Yields (visitFields setup run fields) (fun typed => freshFields typed = freshFields fields)
      fun typed types => CoveredFields typed ∧
        typed.map Field.entry = types.map fun field => (field.1, some field.2)
  | [], _ => by
    simp only [visitFields]
    exact Yields.settle rfl (Answers.pure ⟨trivial, rfl⟩)
  | .mk name value :: rest, blank => by
    simp only [visitFields]
    obtain ⟨blankValue, blankRest⟩ := blank_append.mp blank
    refine (visitNode_yields false value blankValue).andThen
      (fun _ same => by simp only [freshFields, Field.fresh, same]) fun value ty same covered => ?_
    refine (visitFields_yields rest blankRest).andThen
      (fun _ same' => by simp only [freshFields, Field.fresh, same, same'])
      fun rest types same' covered' => ?_
    refine Yields.settle (by simp only [freshFields, Field.fresh, same, same'])
      (Answers.pure ⟨⟨covered.1, covered'.1⟩, ?_⟩)
    rw [List.map_cons, List.map_cons, Field.entry, covered.2, covered'.2]

theorem visitArms_yields (span : Span) : (arms : List Arm) →
    (choices : List (Option (List Ty))) → (previous : Option Ty) →
    List.Forall₂ Selected arms choices → Blank (preorderArms arms) →
    Yields (visitArms setup run span arms choices previous)
      (fun typed => freshArms typed = freshArms arms)
      fun typed result => SettledArms typed ∧
        (previous = none → result.isSome = true → ReachedArms typed)
  | arm :: rest, some expected :: choices, previous, .cons selected others, blank => by
    simp only [visitArms]
    obtain ⟨blankArm, blankRest⟩ := blank_append.mp blank
    refine (visitArm_yields expected arm (selected expected rfl) blankArm).andThen
      (fun _ same => by simp only [freshArms, same]) fun _ ty same covered => ?_
    have joins : Yields (.settle () (joinArm span previous ty)) (fun _ => True) fun _ _ => True :=
      Yields.settle trivial (Answers.any _)
    refine joins.andThen (fun _ _ => by simp only [freshArms, same]) fun _ joined _ _ => ?_
    exact (visitArms_yields span rest choices (some joined) others blankRest).within
      (fun _ same' => by simp only [freshArms, same, same'])
      fun _ _ _ settled => ⟨⟨.inl covered, settled.1⟩, fun _ _ => .inl covered⟩
  | arm :: rest, none :: choices, previous, .cons _ others, blank => by
    simp only [visitArms]
    obtain ⟨blankArm, blankRest⟩ := blank_append.mp blank
    exact (visitArms_yields span rest choices previous others blankRest).within
      (fun _ same => by simp only [freshArms, same])
      fun _ _ _ settled => ⟨⟨.inr blankArm, settled.1⟩, fun first found =>
        .inr (settled.2 first found)⟩
  | [], [], previous, .nil, _ => by
    unfold visitArms
    refine Yields.settle rfl (Answers.pure ⟨trivial, ?_⟩)
    rintro rfl
    exact nofun

theorem visitArm_yields (expected : List Ty) : (arm : Arm) →
    expected.length = arm.pattern.length → Blank arm.preorder →
    Yields (visitArm setup run expected arm) (fun typed => typed.fresh = arm.fresh)
      fun typed _ => typed.Covered
  | .mk span tag args body, lengths, blank => by
    simp only [visitArm]
    obtain ⟨blankArgs, blankBody⟩ := blank_append.mp blank
    refine Yields.between ?_
    refine (bindPattern_yields args expected lengths blankArgs).andThen
      (fun _ same => by simp only [Arm.fresh, same]) fun _ _ same covered => ?_
    exact (visitNodes_yields false body blankBody).andSettle
      (fun _ same' => by simp only [Arm.fresh, same, same'])
      fun _ _ covered' => ⟨covered, covered'.1⟩

end

end

end CallTyping
