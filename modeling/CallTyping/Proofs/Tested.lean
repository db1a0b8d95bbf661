/-
This file proves that a pass has tested a node by the time it gives the node a type.
The conditions of conditionals are booleans then, those of loops have some type, and
the values of assertions are as described. This stays so, since the heap only grows.
It holds for all nodes that get their types in a pass, whether the pass answers or
stops, and nothing is said about nodes that had types before.
-/

import CallTyping.Proofs.Covered
import CallTyping.Proofs.Described

namespace CallTyping

/-! ### Nodes that got types -/

/-- What was tested of the parts of an expression before it has a type. -/
def Expr.Tested (annotations : Annotations) (heap : Heap) : Expr → Prop
  | .ifThen condition _ | .ifThenElse condition _ _ => condition.slot = some .bool
  -- The condition of a loop is visited like the one of a conditional, and not tested.
  | .whileLoop condition _ => condition.isTyped = true
  | .assertion value description =>
    ∃ ty, value.slot = some ty ∧ Describes annotations heap description ty
  | _ => True

/-- Nodes that stand in the place of others are good if they have types where those had none. -/
def Newly (good : Node → Prop) (sources nodes : List Node) : Prop :=
  List.Forall₂ (fun source node => source.isTyped = false → node.isTyped = true → good node)
    sources nodes

/-- Nodes are tested if they have types where others had none. -/
abbrev NewlyTested (annotations : Annotations) (heap : Heap) : List Node → List Node → Prop :=
  Newly fun node => node.expr.Tested annotations heap

namespace Newly

variable {good better : Node → Prop} {sources nodes sources' nodes' : List Node}

/-- Nodes that are as before have got no types. -/
theorem refl (nodes : List Node) : Newly good nodes nodes :=
  List.forall₂_same.mpr fun _ _ untyped typed => nomatch untyped.symm.trans typed

theorem append (left : Newly good sources nodes) (right : Newly good sources' nodes') :
    Newly good (sources ++ sources') (nodes ++ nodes') :=
  List.rel_append left right

/-- Nothing changes in what follows. -/
theorem ahead (newly : Newly good sources nodes) (rest : List Node) :
    Newly good (sources ++ rest) (nodes ++ rest) :=
  newly.append (.refl rest)

/-- Nothing changes in what comes before. -/
theorem behind (newly : Newly good sources nodes) (first : List Node) :
    Newly good (first ++ sources) (first ++ nodes) :=
  append (.refl first) newly

/-- A node that is only changed inside. -/
theorem inside (span : Span) (slot : Option Ty) {expr expr' : Expr}
    (newly : Newly good expr.preorder expr'.preorder) :
    Newly good (Node.mk span slot expr).preorder (Node.mk span slot expr').preorder :=
  .cons (fun untyped typed => nomatch untyped.symm.trans typed) newly

theorem imp (newly : Newly good sources nodes) (implies : ∀ node, good node → better node) :
    Newly better sources nodes :=
  List.Forall₂.imp (fun _ node isGood untyped typed => implies node (isGood untyped typed)) newly

/-- Where nothing had a type before, all nodes with types are good. -/
theorem of_blank (newly : Newly good sources nodes) (blank : Blank sources) :
    ∀ node ∈ nodes, node.isTyped = true → good node := by
  induction newly with
  | nil => exact List.forall_mem_nil _
  | cons first _ inductionHypothesis =>
    obtain ⟨untyped, others⟩ := blank_cons.mp blank
    exact List.forall_mem_cons.mpr ⟨first untyped, inductionHypothesis others⟩

end Newly

theorem Expr.Tested.later {annotations : Annotations} {before after : Heap}
    (grown : before.Grows after) : {expr : Expr} → expr.Tested annotations before →
    expr.Tested annotations after
  | .assertion _ _, ⟨ty, typed, described⟩ => ⟨ty, typed, described.later grown⟩
  | .ifThen _ _, tested | .ifThenElse _ _ _, tested | .whileLoop _ _, tested => tested
  | .ident _, _ | .literal _, _ | .call _, _ | .block _ _, _ | .caseOf _ _, _ | .dot _ _, _
  | .update _ _, _ | .object _, _ | .variant _ _, _ | .define _ _, _ | .require _, _
  | .inlay _, _ => trivial

theorem Newly.later {annotations : Annotations} {before after : Heap} {sources nodes : List Node}
    (grown : before.Grows after) (tested : NewlyTested annotations before sources nodes) :
    NewlyTested annotations after sources nodes :=
  tested.imp fun _ => Expr.Tested.later grown

/-! ### Visits -/

variable {α β γ δ : Type}

/-- A visit by which the heap grows, and after which the nodes that got types are tested. -/
structure Tests (annotations : Annotations) (sources : List Node) (list : α → List Node)
    (visit : Visit α β) (checker : Checker) (good : α → β → Checker → Prop) : Prop where
  grows : checker.heap.Grows (visit checker).2.heap
  newly : NewlyTested annotations (visit checker).2.heap sources (list (visit checker).1.1)
  answers (answer : β) : (visit checker).1.2 = .ok answer →
    good (visit checker).1.1 answer (visit checker).2

namespace Tests

variable {annotations : Annotations} {sources sources' : List Node} {list : α → List Node}
  {list' : γ → List Node} {checker : Checker} {good : α → β → Checker → Prop}
  {goal : γ → δ → Checker → Prop}

theorem settle {tree : α} {step : Check β}
    (tested : NewlyTested annotations checker.heap sources (list tree))
    (grows : checker.heap.Grows (step.outcome checker).2.heap)
    (answers : ∀ answer after, step.outcome checker = (.ok answer, after) →
      good tree answer after) :
    Tests annotations sources list (.settle tree step) checker good :=
  ⟨grows, tested.later grows, fun answer answered => answers answer _ (Prod.ext answered rfl)⟩

theorem andThen {visit : Visit α β} {around : α → γ} {next : α → β → Visit γ δ}
    (first : Tests annotations sources list visit checker good)
    (surround : ∀ piece heap, checker.heap.Grows heap →
      NewlyTested annotations heap sources (list piece) →
        NewlyTested annotations heap sources' (list' (around piece)))
    (rest : ∀ piece found after, checker.heap.Grows after.heap →
      NewlyTested annotations after.heap sources (list piece) → good piece found after →
      Tests annotations sources' list' (next piece found) after goal) :
    Tests annotations sources' list' (visit.andThen around next) checker goal := by
  obtain ⟨grows, newly, answers⟩ := first
  rcases result : visit checker with ⟨⟨piece, stop | found⟩, after⟩
  · rw [result] at grows newly
    constructor <;> rw [Visit.andThen_error result]
    · exact grows
    · exact surround piece after.heap grows newly
    · exact nofun
  · rw [result] at grows newly answers
    have tests := rest piece found after grows newly (answers found rfl)
    constructor <;> rw [Visit.andThen_ok result]
    · exact grows.trans tests.grows
    · exact tests.newly
    · exact tests.answers

/-- A step after a visit leaves the piece as the visit gave it back. -/
theorem andSettle {visit : Visit α β} {around : α → γ} {step : α → β → Check δ}
    (first : Tests annotations sources list visit checker good)
    (surround : ∀ piece heap, checker.heap.Grows heap →
      NewlyTested annotations heap sources (list piece) →
        NewlyTested annotations heap sources' (list' (around piece)))
    (grows : ∀ piece found (after : Checker),
      after.heap.Grows ((step piece found).outcome after).2.heap)
    (answers : ∀ piece found after answer last, good piece found after →
      (step piece found).outcome after = (.ok answer, last) → goal (around piece) answer last) :
    Tests annotations sources' list'
      (visit.andThen around fun piece found => .settle (around piece) (step piece found)) checker
      goal :=
  first.andThen surround fun piece found after grown newly isGood =>
    settle (surround piece after.heap grown newly) (grows piece found after)
      fun answer last => answers piece found after answer last isGood

theorem within {visit : Visit α β} {around : α → γ} {goal : γ → β → Checker → Prop}
    (tests : Tests annotations sources list visit checker good)
    (surround : ∀ piece heap, checker.heap.Grows heap →
      NewlyTested annotations heap sources (list piece) →
        NewlyTested annotations heap sources' (list' (around piece)))
    (better : ∀ piece answer after, good piece answer after → goal (around piece) answer after) :
    Tests annotations sources' list' (visit.within around) checker goal where
  grows := tests.grows
  newly := surround _ _ tests.grows tests.newly
  answers answer answered := better _ answer _ (tests.answers answer answered)

/-- A scope that is entered and left again. -/
theorem inScope {visit : Visit α β}
    (tests : Tests annotations sources list visit checker.enterScope fun _ _ _ => True) :
    Tests annotations sources list (visit.between Checker.enterScope Checker.leaveScope) checker
      fun _ _ _ => True :=
  ⟨tests.grows, tests.newly, fun _ _ => trivial⟩

/-- The type of a node stands in its slot. -/
def Typed (node : Node) (ty : Ty) (_ : Checker) : Prop := node.slot = some ty

/-- The node of an expression gets a type when the expression is tested. -/
theorem asNode {visit : Visit Expr Ty} (span : Span) {source : Node}
    (tests : Tests annotations sources Expr.preorder visit checker
      fun expr _ after => expr.Tested annotations after.heap) :
    Tests annotations (source :: sources) Node.preorder (visit.asNode span) checker Typed := by
  obtain ⟨grows, newly, answers⟩ := tests
  rcases result : visit checker with ⟨⟨expr, answer⟩, after⟩
  have same : visit.asNode span checker = ((.mk span answer.toOption expr, answer), after) := by
    rw [Visit.asNode, result]
  rw [result] at grows newly answers
  constructor <;> rw [same]
  · exact grows
  · refine .cons (fun _ typed => ?_) newly
    cases answer with
    | error => cases typed
    | ok ty => exact answers ty rfl
  · rintro ty rfl
    rfl

/-- The slot of a node that is assigned gets the answer of the step. -/
theorem assign {span : Span} {slot : Option Ty} {expr expr' : Expr} {step : Check Ty}
    (nothing : ∀ heap, expr.Tested annotations heap)
    (tested : NewlyTested annotations checker.heap expr'.preorder expr.preorder)
    (grows : checker.heap.Grows (step.outcome checker).2.heap) :
    Tests annotations (Node.mk span slot expr').preorder Node.preorder
      (Visit.assign (.mk span slot expr) step) checker Typed := by
  have stays : Tests annotations (Node.mk span slot expr').preorder Node.preorder
      (.settle (.mk span slot expr) step) checker fun piece _ _ => piece = .mk span slot expr :=
    settle (.inside span slot tested) grows fun _ _ _ => rfl
  refine stays.andThen (fun _ _ _ same => same) ?_
  rintro _ ty after grown newly rfl
  cases slot with
  | some other => exact settle newly (.refl _) nofun
  | none =>
    refine settle (.cons (fun _ _ => nothing _) (tested.later grown)) (.refl _) ?_
    rintro _ _ ⟨⟩
    rfl

end Tests

/-! ### The pass over a tree -/

section

variable {setup : Setup} {run : Runner}

/-- The names in a pattern are not tested. -/
theorem bindPattern_tests (annotations : Annotations) (args : List Node) (types : List Ty)
    (checker : Checker) :
    Tests annotations (preorderNodes args) preorderNodes (bindPattern args types) checker
      fun _ _ _ => True := by
  fun_induction bindPattern args types generalizing checker with
  | case1 span slot name rest ty types inductionHypothesis =>
    have named : Tests annotations (Node.mk span slot (.ident name)).preorder Node.preorder
        (Visit.assign (.mk span slot (.ident name)) (pure ty)) checker Tests.Typed :=
      .assign (fun _ => trivial) (.refl _) (.refl _)
    refine named.andThen (fun _ _ _ newly => newly.ahead _) fun arg _ after _ newly _ => ?_
    have bound : Tests annotations (preorderNodes rest) preorderNodes
        (.settle rest (modifyBindings (·.bind name ⟨ty, span⟩))) after
        fun piece _ _ => piece = rest := .settle (.refl _) (.refl _) fun _ _ _ => rfl
    refine bound.andThen (fun _ _ grown others => (newly.later grown).append others) ?_
    rintro _ - later grown - rfl
    exact (inductionHypothesis _ later).within
      (fun _ _ grown' others => (newly.later (grown.trans grown')).append others)
      fun _ _ _ _ => trivial
  | case2 arg rest ty types notName => exact .settle (.refl _) (.refl _) (by rintro _ _ ⟨⟩)
  | case3 => exact .settle (.refl _) (.refl _) fun _ _ _ => trivial

/-- A pass by which the heap grows. -/
abbrev Growing (setup : Setup) (run : Runner) : Prop :=
  Flow (fun before _ after => before.heap.Grows after.heap) setup run

mutual

theorem visitNode_tests (kept : Growing setup run) (toplevel : Bool) (checker : Checker) :
    (node : Node) → Tests setup.annotations node.preorder Node.preorder
      (visitNode setup run toplevel node) checker Tests.Typed
  | .mk span slot expr => by
    simp only [visitNode]
    have noted : Tests setup.annotations [] (fun _ => [])
        (.settle () (record (.visiting expr.kindName span))) checker fun _ _ _ => True :=
      .settle (.refl []) (.refl _) fun _ _ _ => trivial
    refine noted.andThen (fun _ _ _ _ => .refl _) fun _ _ after _ _ _ => ?_
    cases slot with
    | some ty => exact .settle (.refl _) (.refl _) nofun
    | none => exact (visitExpr_tests kept toplevel span after expr).asNode span

theorem visitExpr_tests (kept : Growing setup run) (toplevel : Bool) (span : Span)
    (checker : Checker) : (expr : Expr) →
    Tests setup.annotations expr.preorder Expr.preorder (visitExpr setup run toplevel span expr)
      checker fun typed _ after => typed.Tested setup.annotations after.heap
  | .ident name => by
    simp only [visitExpr]
    exact .settle (.refl _) (kept.sound.typeOfName span name checker).flow fun _ _ _ => trivial
  | .literal value => by
    simp only [visitExpr]
    exact .settle (.refl _) (.refl _) fun _ _ _ => trivial
  | .call children => by
    simp only [visitExpr]
    exact (visitNodes_tests kept false checker children).andSettle (fun _ _ _ => id)
      (fun _ _ _ => (kept.sound.typeOfCall span _ fun _ _ => trivial).flow)
      fun _ _ _ _ _ _ _ => trivial
  | .block params body => by
    simp only [visitExpr]
    exact .settle (.refl _) (kept.sound.typeOfBlock span params body checker).flow
      fun _ _ _ => trivial
  | .ifThen condition body => by
    simp only [visitExpr]
    refine (visitNode_tests kept false checker condition).andThen (fun _ _ _ newly => newly.ahead _)
      fun condition ty after _ newly typed => ?_
    refine (visitNodes_tests kept false after body).andSettle
      (fun _ _ grown others => (newly.later grown).append others)
      (fun _ _ later => (kept.answered (kept.sound.expectBool condition.span ty later).flow))
      fun _ _ later answer last _ passes => ?_
    exact typed.trans (congrArg some ((expectBool_isTest ty).of_bind passes).1)
  | .ifThenElse condition body alternative => by
    simp only [visitExpr]
    refine (visitNode_tests kept false checker condition).andThen
      (fun _ _ _ newly => (newly.ahead _).ahead _) fun condition ty after _ newly typed => ?_
    refine (visitNodes_tests kept false after body).andThen
      (fun _ _ grown others => ((newly.later grown).append others).ahead _)
      fun _ types later grown others _ => ?_
    refine (visitNodes_tests kept false later alternative).andSettle
      (fun _ _ grown' last => (((newly.later (grown.trans grown')).append
        (others.later grown')).append last))
      (fun _ _ _ => (kept.sound.typeOfConditional span _ ty trivial trivial).flow)
      fun _ _ later answer last _ passes => ?_
    exact typed.trans (congrArg some ((expectBool_isTest ty).of_bind passes).1)
  | .whileLoop condition body => by
    simp only [visitExpr]
    refine (visitNode_tests kept false checker condition).andThen (fun _ _ _ newly => newly.ahead _)
      fun condition ty after _ newly typed => ?_
    exact (visitNodes_tests kept false after body).andSettle
      (fun _ _ grown others => (newly.later grown).append others) (fun _ _ _ => .refl _)
      fun _ _ _ _ _ _ _ => Option.isSome_of_eq_some typed
  | .caseOf scrutinee arms => by
    simp only [visitExpr]
    refine (visitNode_tests kept false checker scrutinee).andThen
      (fun _ _ _ newly => newly.ahead _) fun scrutinee ty after _ newly _ => ?_
    have chosen : Tests setup.annotations [] (fun _ => [])
        (.settle () (expectVariant scrutinee.span ty >>= fun variant =>
          selectArms setup.settings.unknownArms variant arms)) after fun _ _ _ => True :=
      .settle (.refl []) (kept.sound.chooseArms _ scrutinee.span arms trivial).flow
        fun _ _ _ => trivial
    refine chosen.andThen (fun _ _ grown _ => (newly.later grown).ahead _)
      fun _ choices later grown _ _ => ?_
    exact (visitArms_tests kept span later arms choices none).andSettle
      (fun _ _ grown' others => (newly.later (grown.trans grown')).append others)
      (fun _ _ _ => (kept.sound.typeOfMatch span ty fun _ _ => trivial).flow)
      fun _ _ _ _ _ _ _ => trivial
  | .dot target field => by
    simp only [visitExpr]
    exact (visitNode_tests kept false checker target).andSettle (fun _ _ _ => id)
      (fun _ _ _ => (kept.sound.typeOfField _ field trivial).flow) fun _ _ _ _ _ _ _ => trivial
  | .update target value => by
    simp only [visitExpr]
    refine (visitNode_tests kept false checker value).andThen (fun _ _ _ newly => newly.behind _)
      fun value ty after _ newly _ => ?_
    exact (visitTarget_tests kept value.span ty after target).within
      (fun _ _ grown others => others.append (newly.later grown)) fun _ _ _ _ => trivial
  | .assertion value description => by
    simp only [visitExpr]
    refine (visitNode_tests kept false checker value).andSettle (fun _ _ _ newly => newly.ahead _)
      (fun value ty after => kept.answered
        (kept.sound.assertType setup.annotations value.span ty after description).flow)
      fun value ty after answer last typed passes => ?_
    obtain ⟨described, ends⟩ := (assertType_isTest ty description).of_bind passes
    cases ends
    exact ⟨ty, typed, described⟩
  | .object fields => by
    simp only [visitExpr]
    exact (visitFields_tests kept checker fields).andSettle (fun _ _ _ => id)
      (fun _ _ _ => (kept.sound.newObject fun _ _ => trivial).flow) fun _ _ _ _ _ _ _ => trivial
  | .variant tag args => by
    simp only [visitExpr]
    exact (visitNodes_tests kept false checker args).andSettle (fun _ _ _ => id)
      (fun _ _ _ => (kept.sound.newVariant tag fun _ _ => trivial).flow)
      fun _ _ _ _ _ _ _ => trivial
  | .define name value => by
    simp only [visitExpr]
    exact (visitNode_tests kept false checker value).andSettle (fun _ _ _ => id)
      (fun _ _ _ => (kept.sound.defineName toplevel span name trivial).flow)
      fun _ _ _ _ _ _ _ => trivial
  | .require name => by
    simp only [visitExpr]
    exact .settle (.refl _) (kept.sound.typeOfRequire span name checker).flow fun _ _ _ => trivial
  | .inlay inner => by
    simp only [visitExpr]
    exact (visitNode_tests kept false checker inner).andSettle (fun _ _ _ => id)
      (fun _ _ _ => (kept.sound.noteInlay span trivial).flow) fun _ _ _ _ _ _ _ => trivial

theorem visitTarget_tests (kept : Growing setup run) (valueSpan : Span) (new : Ty)
    (checker : Checker) : (target : Node) →
    Tests setup.annotations target.preorder Node.preorder
      (visitTarget setup run valueSpan new target) checker Tests.Typed
  | .mk span slot (.ident name) => by
    simp only [visitTarget]
    exact .assign (fun _ => trivial) (.refl _)
      (kept.sound.updateVariable span valueSpan name trivial).flow
  | .mk span slot (.dot base field) => by
    simp only [visitTarget]
    split
    · refine (visitNode_tests kept false checker base).andThen
        (fun _ _ _ newly => .inside _ _ newly) fun base ty after _ newly _ => ?_
      exact .assign (fun _ => trivial) newly
        (kept.sound.updateField base.span valueSpan field trivial trivial).flow
    · exact .settle (.refl _) (.refl _) nofun
  | .mk span _ (.literal _) | .mk span _ (.call _) | .mk span _ (.block _ _)
  | .mk span _ (.ifThen _ _) | .mk span _ (.ifThenElse _ _ _) | .mk span _ (.whileLoop _ _)
  | .mk span _ (.caseOf _ _) | .mk span _ (.update _ _) | .mk span _ (.assertion _ _)
  | .mk span _ (.object _) | .mk span _ (.variant _ _) | .mk span _ (.define _ _)
  | .mk span _ (.require _) | .mk span _ (.inlay _) => by
    simp only [visitTarget]
    exact .settle (.refl _) (.refl _) nofun

theorem visitNodes_tests (kept : Growing setup run) (toplevel : Bool) (checker : Checker) :
    (nodes : List Node) → Tests setup.annotations (preorderNodes nodes) preorderNodes
      (visitNodes setup run toplevel nodes) checker fun _ _ _ => True
  | [] => by
    simp only [visitNodes]
    exact .settle (.refl _) (.refl _) fun _ _ _ => trivial
  | node :: rest => by
    simp only [visitNodes]
    refine (visitNode_tests kept toplevel checker node).andThen
      (fun _ _ _ newly => newly.ahead _) fun _ _ after _ newly _ => ?_
    exact (visitNodes_tests kept toplevel after rest).andSettle
      (fun _ _ grown others => (newly.later grown).append others) (fun _ _ _ => .refl _)
      fun _ _ _ _ _ _ _ => trivial

theorem visitFields_tests (kept : Growing setup run) (checker : Checker) :
    (fields : List Field) → Tests setup.annotations (preorderFields fields) preorderFields
      (visitFields setup run fields) checker fun _ _ _ => True
  | [] => by
    simp only [visitFields]
    exact .settle (.refl _) (.refl _) fun _ _ _ => trivial
  | .mk name value :: rest => by
    simp only [visitFields]
    refine (visitNode_tests kept false checker value).andThen
      (fun _ _ _ newly => newly.ahead _) fun _ _ after _ newly _ => ?_
    exact (visitFields_tests kept after rest).andSettle
      (fun _ _ grown others => (newly.later grown).append others) (fun _ _ _ => .refl _)
      fun _ _ _ _ _ _ _ => trivial

theorem visitArms_tests (kept : Growing setup run) (span : Span) (checker : Checker) :
    (arms : List Arm) → (choices : List (Option (List Ty))) → (previous : Option Ty) →
    Tests setup.annotations (preorderArms arms) preorderArms
      (visitArms setup run span arms choices previous) checker fun _ _ _ => True
  | arm :: rest, some expected :: choices, previous => by
    simp only [visitArms]
    refine (visitArm_tests kept checker expected arm).andThen
      (fun _ _ _ newly => newly.ahead _) fun _ ty after _ newly _ => ?_
    have joins : Tests setup.annotations [] (fun _ => []) (.settle () (joinArm span previous ty))
        after fun _ _ _ => True :=
      .settle (.refl []) (kept.sound.joinArm span (fun _ _ => trivial) trivial).flow
        fun _ _ _ => trivial
    refine joins.andThen (fun _ _ grown _ => (newly.later grown).ahead _)
      fun _ joined later grown _ _ => ?_
    exact (visitArms_tests kept span later rest choices (some joined)).within
      (fun _ _ grown' others => (newly.later (grown.trans grown')).append others)
      fun _ _ _ _ => trivial
  | arm :: rest, none :: choices, previous => by
    simp only [visitArms]
    exact (visitArms_tests kept span checker rest choices previous).within
      (fun _ _ _ others => others.behind _) fun _ _ _ _ => trivial
  | [], _, previous | _ :: _, [], previous => by
    unfold visitArms
    exact .settle (.refl _) (.refl _) fun _ _ _ => trivial

theorem visitArm_tests (kept : Growing setup run) (checker : Checker) (expected : List Ty) :
    (arm : Arm) → Tests setup.annotations arm.preorder Arm.preorder
      (visitArm setup run expected arm) checker fun _ _ _ => True
  | .mk span tag args body => by
    simp only [visitArm]
    refine Tests.inScope ?_
    refine (bindPattern_tests _ args expected _).andThen
      (fun _ _ _ newly => newly.ahead _) fun _ _ after _ newly _ => ?_
    exact (visitNodes_tests kept false after body).andSettle
      (fun _ _ grown others => (newly.later grown).append others) (fun _ _ _ => .refl _)
      fun _ _ _ _ _ _ _ => trivial

end

theorem runWithin_tests (setup : Setup) (levels : Nat) (occasion : Occasion) (program : Program)
    (checker : Checker) :
    Tests setup.annotations (preorderNodes program) preorderNodes
      (runWithin setup levels occasion program) checker fun _ _ _ => True := by
  cases levels with
  | zero =>
    rw [runWithin]
    exact .settle (.refl _) (.refl _) (by rintro _ _ ⟨⟩)
  | succ levels =>
    exact visitNodes_tests (grows_flow setup (runWithin_grows setup levels)) occasion.isFile
      checker program

end

end CallTyping
