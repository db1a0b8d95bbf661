/-
This file proves that a pass fills the slots of a tree with types that agree. When a
node gets its type, the type and its parts are under the rule for the node in the
state of that moment, and from then on the rule is kept, since blocks stay and the
heap only grows. This holds for the nodes that were reached whether the pass answers
or stops.
-/

import CallTyping.Proofs.Registry

namespace CallTyping

/-! ### Answers of the typing rules -/

section

variable {checker after : Checker} {span objectSpan valueSpan : Span} {answer : Ty}

/-- A join that succeeds is the type that was expected. -/
theorem joinTypes_left {reason : String} {expected found : Ty}
    (done : (joinTypes reason span expected found).outcome checker = (.ok answer, after)) :
    answer = expected := by
  cases joins : checker.heap.join expected found with
  | none =>
    rw [Check.outcome_joinTypes_none joins] at done
    cases done
  | some joined =>
    rw [Check.outcome_joinTypes_some joins] at done
    cases done
    rfl

/-- A conditional has the type of its first branch. -/
theorem typeOfConditional_left {conditionSpan : Span} {condition body alternative : Ty}
    (done : (typeOfConditional span conditionSpan condition body alternative).outcome checker =
      (.ok answer, after)) : answer = body := by
  rw [typeOfConditional] at done
  rcases first : (expectBool conditionSpan condition).outcome checker with ⟨stop | ⟨⟩, later⟩
  · rw [Check.outcome_bind_error first] at done
    cases done
  · rw [Check.outcome_bind_ok first] at done
    exact joinTypes_left done

/-- A field that is read is held by an object. -/
theorem typeOfField_held {ty : Ty} {field : String}
    (done : (typeOfField span ty field).outcome checker = (.ok answer, after)) :
    ∃ id, ty = .object id ∧ after.heap.field? id field = some answer := by
  cases ty with
  | object id =>
    simp only [typeOfField, expectObject, pure_bind, Check.outcome_bind, Check.outcome_get] at done
    split at done
    next found held =>
      cases done
      exact ⟨id, rfl, held⟩
    next => cases done
  | _ => cases done

/-- A field that is written is held by the object with the type that the update has. -/
theorem updateField_held {ty new : Ty} {field : String} (explained : checker.stock.Explains ty)
    (done : (updateField objectSpan valueSpan ty field new).outcome checker =
      (.ok answer, after)) :
    ∃ id, ty = .object id ∧ after.heap.field? id field = some answer := by
  rw [Check.outcome_updateField] at done
  cases ty with
  | object id =>
    refine ⟨id, rfl, ?_⟩
    simp only [expectObject, pure_bind] at done
    cases held : checker.heap.field? id field with
    | none =>
      rw [held] at done
      cases done
      have known : id.index < checker.heap.objects.size := explained
      show ((checker.heap.setField id field answer).fields id).get? field = some answer
      rw [Heap.fields_setField_self _ _ _ _ known, OrderedMap.get?_insert_self]
    | some old =>
      rw [held] at done
      cases joins : checker.heap.join old new with
      | none =>
        rw [Check.outcome_joinTypes_none joins] at done
        cases done
      | some joined =>
        rw [Check.outcome_joinTypes_some joins] at done
        cases done
        exact (Heap.field?_join joins id field).trans held
  | _ => cases done

/-- The type of a call of at most one child obeys the rule. -/
theorem typeOfCall_rule {setup : Setup} {run : Runner} {old : Ty → Prop} {calleeSpan : Span}
    {children : List Node} {types : List Ty} (slots : children.map Node.slot = types.map some)
    (done : (typeOfCall setup run span calleeSpan types).outcome checker = (.ok answer, after)) :
    (Expr.call children).Rule old after.heap answer := by
  match children, types with
  | [], [] =>
    cases done
    rfl
  | [child], [ty] =>
    cases done
    exact (List.cons.inj slots).1
  | _ :: _ :: _, _ => trivial
  | [], _ :: _ | [_], [] | [_], _ :: _ :: _ =>
    exact absurd (congrArg List.length slots) (by simp)

end

/-! ### Arms that are selected -/

/-- An arm is selected exactly if its tag is among these names, and then with as many types as its
pattern has nodes. -/
structure SelectedBy (names : List String) (arm : Arm) (choice : Option (List Ty)) : Prop where
  known : choice.isSome = true ↔ arm.tag ∈ names
  lengths : Selected arm choice

theorem selectArm_by {unknown : UnknownArms} {id : VariantId} {arm : Arm}
    {choice : Option (List Ty)} {checker after : Checker}
    (done : (selectArm unknown id arm).outcome checker = (.ok choice, after)) :
    after.heap = checker.heap ∧ SelectedBy (checker.heap.tags id).keys arm choice := by
  have lengths := selectArm_answers unknown id arm checker choice (congrArg Prod.fst done)
  obtain ⟨span, tag, args, body⟩ := arm
  rw [selectArm, Check.outcome_bind, Check.outcome_get] at done
  dsimp only at done
  split at done
  next expected held =>
    split at done
    · cases done
      refine ⟨rfl, iff_of_true rfl ?_, lengths⟩
      exact (OrderedMap.contains_iff _ tag).mp (by rw [OrderedMap.contains, ← Heap.tag?, held]; rfl)
    · cases done
  next missing =>
    split at done
    · cases done
      refine ⟨rfl, iff_of_false Bool.false_ne_true fun member => ?_, lengths⟩
      have present := (OrderedMap.contains_iff _ tag).mpr member
      rw [OrderedMap.contains, ← Heap.tag?, missing] at present
      cases present
    · cases done

theorem selectArms_by {unknown : UnknownArms} {id : VariantId} {arms : List Arm}
    {choices : List (Option (List Ty))} {checker after : Checker}
    (done : (selectArms unknown id arms).outcome checker = (.ok choices, after)) :
    after.heap = checker.heap ∧
      List.Forall₂ (SelectedBy (checker.heap.tags id).keys) arms choices := by
  induction arms generalizing checker choices after with
  | nil =>
    cases done
    exact ⟨rfl, .nil⟩
  | cons arm rest inductionHypothesis =>
    rw [selectArms] at done
    rcases first : (selectArm unknown id arm).outcome checker with ⟨stop | choice, later⟩
    · rw [Check.outcome_bind_error first] at done
      cases done
    rw [Check.outcome_bind_ok first] at done
    rcases others : (selectArms unknown id rest).outcome later with ⟨stop | more, last⟩
    · rw [Check.outcome_bind_error others] at done
      cases done
    rw [Check.outcome_bind_ok others] at done
    cases done
    obtain ⟨same, selected⟩ := selectArm_by first
    obtain ⟨same', selectedRest⟩ := inductionHypothesis others
    rw [same] at same' selectedRest
    exact ⟨same', .cons selected selectedRest⟩

/-- The arms of a match are selected by the tags of the variant. -/
theorem chooseArms_by {unknown : UnknownArms} {span : Span} {arms : List Arm} {ty : Ty}
    {choices : List (Option (List Ty))} {checker after : Checker}
    (done : (expectVariant span ty >>= fun id => selectArms unknown id arms).outcome checker =
      (.ok choices, after)) :
    ∃ id, ty = .variant id ∧
      List.Forall₂ (SelectedBy (after.heap.tags id).keys) arms choices := by
  cases ty with
  | variant id =>
    rw [expectVariant, pure_bind] at done
    obtain ⟨same, selected⟩ := selectArms_by done
    exact ⟨id, rfl, same ▸ selected⟩
  | _ => cases done

/-! ### Sequences -/

theorem Conduct.Leads.grows {terms : Terms} {levels : Nat} {before after : Checker}
    (leads : (terms.registering levels).Leads before after) : before.stock.Grows after.stock :=
  (leads.flow leads.ready).grows

/-- A type makes sense in a state and obeys the rule for an expression. -/
def Obeys (old : Ty → Prop) (expr : Expr) (ty : Ty) (checker : Checker) : Prop :=
  checker.stock.Explains ty ∧ expr.Rule old checker.heap ty

/-- A type makes sense and stands in the slot of a node. -/
def Holds (node : Node) (ty : Ty) (checker : Checker) : Prop :=
  node.slot = some ty ∧ checker.stock.Explains ty

/-- Types make sense and stand in the slots of nodes. -/
def HoldsEach (nodes : List Node) (types : List Ty) (checker : Checker) : Prop :=
  nodes.map Node.slot = types.map some ∧ ∀ ty ∈ types, checker.stock.Explains ty

namespace Terms.Fills

variable {α β γ δ : Type} {terms : Terms} {levels : Nat} {run : Runner} {old : Ty → Prop}
  {checker : Checker} {list : α → List Node} {list' : γ → List Node}
  {good : α → β → Checker → Prop} {goal : γ → δ → Checker → Prop}

theorem settle {tree : α} {step : Check β} (intact : Intact old checker.stock (list tree))
    (ends : (terms.registering levels).Ends checker (good tree) (step.outcome checker)) :
    terms.Fills levels old list (.settle tree step) checker good where
  ends := ends
  intact registered := intact.later (ends.flow registered registered).grows

theorem andThen (sound : (terms.registering levels).Sound terms.setup run) {visit : Visit α β}
    {around : α → γ} {next : α → β → Visit γ δ}
    (first : terms.Fills levels old list visit checker good)
    (surround : ∀ piece stock, checker.stock.Grows stock → Intact old stock (list piece) →
      Intact old stock (list' (around piece)))
    (rest : ∀ piece found after, (terms.registering levels).Leads checker after →
      Intact old after.stock (list piece) → good piece found after →
      terms.Fills levels old list' (next piece found) after goal) :
    terms.Fills levels old list' (visit.andThen around next) checker goal := by
  obtain ⟨ends, intact⟩ := first
  rcases result : visit checker with ⟨⟨piece, stop | found⟩, after⟩
  · rw [Visit.outcome, result] at ends
    rw [result] at intact
    constructor
    · rw [Visit.outcome, Visit.andThen_error result]
      exact ends
    · rw [Visit.andThen_error result]
      exact fun registered =>
        surround piece _ (ends registered registered).grows (intact registered)
  · rw [Visit.outcome, result] at ends
    rw [result] at intact
    have leads (registered : Registered terms.served checker) :
        (terms.registering levels).Leads checker after := ⟨registered, (ends registered).1⟩
    have continued (registered : Registered terms.served checker) :=
      rest piece found after (leads registered) (intact registered) (ends registered).2
    constructor
    · rw [Visit.outcome, Visit.andThen_ok result]
      exact fun registered =>
        sound.continued (leads registered).flow (continued registered).ends registered
    · rw [Visit.andThen_ok result]
      exact fun registered => (continued registered).intact
        ((leads registered).flow registered).registered

/-- A step after a visit leaves the piece as the visit gave it back. -/
theorem andSettle (sound : (terms.registering levels).Sound terms.setup run) {visit : Visit α β}
    {around : α → γ} {step : α → β → Check δ}
    (first : terms.Fills levels old list visit checker good)
    (surround : ∀ piece stock, checker.stock.Grows stock → Intact old stock (list piece) →
      Intact old stock (list' (around piece)))
    (ends : ∀ piece found after, (terms.registering levels).Leads checker after →
      good piece found after → (terms.registering levels).Ends after (goal (around piece))
        ((step piece found).outcome after)) :
    terms.Fills levels old list'
      (visit.andThen around fun piece found => .settle (around piece) (step piece found)) checker
      goal :=
  first.andThen sound surround fun piece found after leads intact isGood =>
    settle (surround piece _ leads.grows intact) (ends piece found after leads isGood)

theorem within {visit : Visit α β} {around : α → γ} {goal : γ → β → Checker → Prop}
    (fills : terms.Fills levels old list visit checker good)
    (surround : ∀ piece stock, checker.stock.Grows stock → Intact old stock (list piece) →
      Intact old stock (list' (around piece)))
    (better : ∀ piece answer after, good piece answer after → goal (around piece) answer after) :
    terms.Fills levels old list' (visit.within around) checker goal where
  ends := fills.ends.also fun answer after _ _ isGood => better _ answer after isGood
  intact registered :=
    surround _ _ (fills.ends.flow registered registered).grows (fills.intact registered)

/-- A scope that is entered and left again. -/
theorem inScope (sound : (terms.registering levels).Sound terms.setup run) {visit : Visit α β}
    (fills : terms.Fills levels old list visit checker.enterScope good)
    (leave : ∀ piece answer after, good piece answer after → good piece answer after.leaveScope) :
    terms.Fills levels old list (visit.between Checker.enterScope Checker.leaveScope) checker
      good where
  ends := by
    rw [Visit.outcome_between]
    intro registered
    have ended := fills.ends registered.enterScope
    rcases result : visit.outcome checker.enterScope with ⟨stop | answer, after⟩
    · rw [result] at ended
      exact sound.scope ended
    · rw [result] at ended
      exact ⟨sound.scope ended.1, leave _ answer after ended.2⟩
  intact registered := fills.intact registered.enterScope

/-- The node of an expression gets the type that was found for it. -/
theorem asNode {visit : Visit Expr Ty} (span : Span)
    (fills : terms.Fills levels old Expr.preorder visit checker (Obeys old)) :
    terms.Fills levels old Node.preorder (visit.asNode span) checker Holds := by
  obtain ⟨ends, intact⟩ := fills
  rcases result : visit checker with ⟨⟨expr, stop | ty⟩, after⟩
  · rw [Visit.outcome, result] at ends
    rw [result] at intact
    have same : visit.asNode span checker = ((.mk span none expr, .error stop), after) := by
      rw [Visit.asNode, result]
      rfl
    constructor
    · rw [Visit.outcome, same]
      exact ends
    · rw [same]
      exact fun registered => intact_cons.mpr ⟨by rintro _ ⟨⟩, intact registered⟩
  · rw [Visit.outcome, result] at ends
    rw [result] at intact
    have same : visit.asNode span checker = ((.mk span (some ty) expr, .ok ty), after) := by
      rw [Visit.asNode, result]
      rfl
    constructor
    · rw [Visit.outcome, same]
      exact fun registered => ⟨(ends registered).1, rfl, (ends registered).2.1⟩
    · rw [same]
      refine fun registered => intact_cons.mpr ⟨?_, intact registered⟩
      rintro _ ⟨⟩
      exact .inr (ends registered).2

/-- The slot of a node that is assigned gets the answer of the step. -/
theorem assign (sound : (terms.registering levels).Sound terms.setup run)
    (excused : ∀ ty, old ty → terms.typed) {span : Span} {slot : Option Ty} {expr : Expr}
    {step : Check Ty} (own : ∀ ty, slot = some ty → old ty)
    (intact : Intact old checker.stock expr.preorder)
    (ends : (terms.registering levels).Ends checker (Obeys old expr) (step.outcome checker)) :
    terms.Fills levels old Node.preorder (Visit.assign (.mk span slot expr) step) checker
      Holds := by
  -- The step runs before the slot is looked at, so it may grow what the parts have to agree with.
  have stays : terms.Fills levels old Node.preorder (.settle (.mk span slot expr) step) checker
      fun piece ty after => piece = .mk span slot expr ∧ Obeys old expr ty after :=
    settle (intact_cons.mpr ⟨fun ty typed => .inl (own ty typed), intact⟩)
      (ends.also fun _ _ _ _ obeys => ⟨rfl, obeys⟩)
  refine stays.andThen sound (fun _ _ _ same => same) ?_
  rintro _ ty after leads unchanged ⟨rfl, obeys⟩
  cases slot with
  | some other =>
    exact settle unchanged fun _ =>
      sound.refilled after span other ty trivial fun before typed =>
        excused before (own before typed)
  | none =>
    refine settle (intact_cons.mpr ⟨?_, (intact_cons.mp unchanged).2⟩) (sound.pure ⟨rfl, obeys.1⟩)
    rintro _ ⟨⟩
    exact .inr obeys

end Terms.Fills

/-! ### Patterns -/

section

variable {terms : Terms} {levels : Nat} {run : Runner} {old : Ty → Prop}

/-- Every node of a pattern with a type for each of its nodes gets a type. -/
theorem bindPattern_fills (sound : (terms.registering levels).Sound terms.setup run)
    (excused : ∀ ty, old ty → terms.typed) (args : List Node) (types : List Ty) :
    ∀ checker, types.length = args.length → Was old (preorderNodes args) →
      (terms.registering levels).FitAll checker types →
      terms.Fills levels old preorderNodes (bindPattern args types) checker
        fun typed _ _ => ∀ node ∈ typed, node.isTyped = true := by
  fun_induction bindPattern args types with
  | case1 span slot name rest ty types inductionHypothesis =>
    intro checker lengths was fit
    obtain ⟨wasArg, wasRest⟩ := was_append.mp was
    have own := (was_cons.mp wasArg).1
    have named : (terms.registering levels).Ends checker (Obeys old (.ident name))
        ((pure ty : Check Ty).outcome checker) := sound.pure ⟨fit ty List.mem_cons_self, trivial⟩
    refine (Terms.Fills.assign sound excused own intact_nil named).andThen sound
      (fun _ _ _ => wasRest.behind)
      fun arg _ after leads intact holds => ?_
    have fit' := sound.keepsAll leads fit
    have bound : (terms.registering levels).Ends after (fun _ _ => rest = rest)
        ((modifyBindings (·.bind name ⟨ty, span⟩)).outcome after) := fun _ =>
      ⟨sound.bind after name ty span (fit' ty List.mem_cons_self), rfl⟩
    have noted : terms.Fills levels old preorderNodes
        (.settle rest (modifyBindings (·.bind name ⟨ty, span⟩))) after
        fun piece _ _ => piece = rest := .settle (wasRest.intact _) bound
    refine noted.andThen sound
      (fun _ _ => intact.ahead) ?_
    rintro _ - later leads' - rfl
    refine (inductionHypothesis _ later (Nat.succ.inj lengths) wasRest fun other member =>
      sound.keeps leads' (fit' other (List.mem_cons_of_mem _ member))).within
      (fun _ _ => (intact.later leads'.grows).ahead)
      fun _ _ _ typed => List.forall_mem_cons.mpr ⟨?_, typed⟩
    exact Option.isSome_iff_exists.mpr ⟨_, holds.1⟩
  | case2 arg rest ty types notName =>
    exact fun checker _ was _ => .settle (was.intact _) (sound.stops checker _ _ trivial)
  | case3 types args _ notBoth =>
    intro checker lengths _ _
    cases args with
    | nil => exact .settle intact_nil (sound.pure (List.forall_mem_nil _))
    | cons arg rest =>
      cases types with
      | nil => cases lengths
      | cons ty types => exact (notBoth arg rest ty types rfl rfl).elim

/-! ### The pass over a tree -/

/-- What is known about the arms of a match after they were typed: the first one that was selected
has the type of all, unless there was a type before. -/
structure Joined (old : Ty → Prop) (names : List String) (previous : Option Ty) (arms : List Arm)
    (result : Option Ty) (checker : Checker) : Prop where
  settled : ∀ arm ∈ arms, arm.Settled old names
  explained : ∀ ty ∈ result, checker.stock.Explains ty
  keeps : ∀ ty ∈ previous, result = some ty
  first : previous = none → ∀ ty ∈ result, FirstArm names arms ty

/-- An arm that was typed, and the type of its last statement. -/
structure TypedArm (source typed : Arm) (ty : Ty) (checker : Checker) : Prop where
  tag : typed.tag = source.tag
  nodes : ∀ node ∈ typed.pattern ++ typed.body, node.isTyped = true
  last : lastType typed.body = some ty
  explained : checker.stock.Explains ty

theorem isTyped_of_slots {nodes : List Node} {types : List Ty}
    (slots : nodes.map Node.slot = types.map some) : ∀ node ∈ nodes, node.isTyped = true := by
  intro node member
  have inside : node.slot ∈ types.map some := slots ▸ List.mem_map_of_mem member
  obtain ⟨ty, -, same⟩ := List.mem_map.mp inside
  rw [Node.isTyped, ← same]
  rfl

mutual

theorem visitNode_fills (sound : (terms.registering levels).Sound terms.setup run)
    (excused : ∀ ty, old ty → terms.typed) (toplevel : Bool) (checker : Checker) :
    (node : Node) → Was old node.preorder →
    terms.Fills levels old Node.preorder (visitNode terms.setup run toplevel node) checker Holds
  | .mk span slot expr, was => by
    simp only [visitNode]
    obtain ⟨own, wasInside⟩ := was_cons.mp was
    have noted : terms.Fills levels old (fun _ => []) (.settle () (record (.visiting
        expr.kindName span))) checker fun _ _ _ => True :=
      .settle intact_nil (sound.recorded _ checker)
    refine noted.andThen sound (fun _ stock _ _ => was.intact stock) fun _ _ after _ _ _ => ?_
    cases slot with
    | some ty =>
      exact .settle (was.intact _) fun _ => sound.refilled after span ty ty trivial
        fun other typed => excused other (own other typed)
    | none => exact (visitExpr_fills sound excused toplevel span after expr wasInside).asNode span

theorem visitExpr_fills (sound : (terms.registering levels).Sound terms.setup run)
    (excused : ∀ ty, old ty → terms.typed) (toplevel : Bool) (span : Span) (checker : Checker) :
    (expr : Expr) → Was old expr.preorder →
    terms.Fills levels old Expr.preorder (visitExpr terms.setup run toplevel span expr) checker
      (Obeys old)
  | .ident name, was => by
    simp only [visitExpr]
    exact .settle (was.intact _) ((sound.typeOfName span name checker).also
      fun _ _ _ _ fit => ⟨fit, trivial⟩)
  | .literal value, was => by
    simp only [visitExpr]
    exact .settle (was.intact _) (sound.pure ⟨sound.literal checker value, rfl⟩)
  | .call children, was => by
    simp only [visitExpr]
    refine (visitNodes_fills sound excused false checker children was).andSettle sound
      (fun _ _ _ intact => intact) fun typed types after _ holds => ?_
    exact (sound.typeOfCall span (calleeSpan typed) holds.2).also fun _ _ _ done fit =>
      ⟨fit, typeOfCall_rule holds.1 done⟩
  | .block params body, was => by
    simp only [visitExpr]
    refine .settle (was.intact _) ((sound.typeOfBlock span params body checker).also ?_)
    rintro _ _ - ⟨⟩ fit
    exact ⟨fit, _, rfl⟩
  | .ifThen condition body, was => by
    simp only [visitExpr]
    obtain ⟨wasCondition, wasBody⟩ := was_append.mp was
    refine (visitNode_fills sound excused false checker condition wasCondition).andThen sound
      (fun _ _ _ => wasBody.behind)
      fun condition ty after _ intact _ => ?_
    refine (visitNodes_fills sound excused false after body wasBody).andSettle sound
      (fun _ _ => intact.ahead)
      fun _ _ later _ _ => ?_
    exact sound.bind_step (sound.expectBool condition.span ty later) fun _ _ _ _ =>
      sound.pure ⟨trivial, rfl⟩
  | .ifThenElse condition body alternative, was => by
    simp only [visitExpr]
    obtain ⟨wasBoth, wasAlternative⟩ := was_append.mp was
    obtain ⟨wasCondition, wasBody⟩ := was_append.mp wasBoth
    refine (visitNode_fills sound excused false checker condition wasCondition).andThen sound
      (fun _ _ _ inner => wasAlternative.behind (wasBody.behind inner))
      fun condition ty after _ intact _ => ?_
    refine (visitNodes_fills sound excused false after body wasBody).andThen sound
      (fun _ _ grown inner => wasAlternative.behind (intact.ahead grown inner))
      fun body types later leads intact' holds => ?_
    refine (visitNodes_fills sound excused false later alternative wasAlternative).andSettle sound
      (fun _ _ => (intact.ahead leads.grows intact').ahead)
      fun _ others last leads' holds' => ?_
    exact (sound.typeOfConditional span condition.span ty
      (sound.keeps leads' (sound.fits_ofBody holds.2)) (sound.fits_ofBody holds'.2)).also
      fun _ _ _ done fit =>
        ⟨fit, typeOfConditional_left done ▸ lastType_of_slots holds.1⟩
  | .whileLoop condition body, was => by
    simp only [visitExpr]
    obtain ⟨wasCondition, wasBody⟩ := was_append.mp was
    refine (visitNode_fills sound excused false checker condition wasCondition).andThen sound
      (fun _ _ _ => wasBody.behind)
      fun _ _ after _ intact _ => ?_
    exact (visitNodes_fills sound excused false after body wasBody).andSettle sound
      (fun _ _ => intact.ahead)
      fun _ _ _ _ _ => sound.pure ⟨trivial, rfl⟩
  | .caseOf scrutinee arms, was => by
    simp only [visitExpr]
    obtain ⟨wasScrutinee, wasArms⟩ := was_append.mp was
    refine (visitNode_fills sound excused false checker scrutinee wasScrutinee).andThen sound
      (fun _ _ _ => wasArms.behind)
      fun scrutinee ty after _ intact holds => ?_
    have chosen : terms.Fills levels old (fun _ => []) (.settle () (expectVariant scrutinee.span ty
        >>= fun id => selectArms terms.setup.settings.unknownArms id arms)) after
        fun _ choices later => (terms.registering levels).FitChoices later choices ∧
          ∃ id, ty = .variant id ∧
            List.Forall₂ (SelectedBy (later.heap.tags id).keys) arms choices :=
      .settle intact_nil ((sound.chooseArms _ scrutinee.span arms holds.2).also
        fun _ _ _ done fit => ⟨fit, chooseArms_by done⟩)
    refine chosen.andThen sound
      (fun _ _ grown _ => wasArms.behind (intact.later grown)) ?_
    rintro - choices later leads - ⟨fitChoices, id, rfl, selected⟩
    refine (visitArms_fills sound excused span later arms choices none selected wasArms fitChoices
      (by simp)).andSettle sound
      (fun _ _ => (intact.later leads.grows).ahead) fun typed result last leads' joined => ?_
    -- The names in the rule are the tags at the choice of the arms; visiting the arms adds more.
    have known := leads'.grows.heap.tagNames id
    refine (sound.typeOfMatch span _ joined.explained).also fun answer final _ done fit => ?_
    cases result with
    | none => cases done
    | some found =>
      cases done
      exact ⟨fit, id, _, holds.1, known, joined.settled, joined.first rfl _ rfl⟩
  | .dot target field, was => by
    simp only [visitExpr]
    refine (visitNode_fills sound excused false checker target was).andSettle sound
      (fun _ _ _ intact => intact) fun target ty after _ holds => ?_
    refine (sound.typeOfField target.span field holds.2).also fun _ _ _ done fit => ?_
    obtain ⟨id, rfl, held⟩ := typeOfField_held done
    exact ⟨fit, id, holds.1, held⟩
  | .update target value, was => by
    simp only [visitExpr]
    obtain ⟨wasTarget, wasValue⟩ := was_append.mp was
    refine (visitNode_fills sound excused false checker value wasValue).andThen sound
      (fun _ _ _ => wasTarget.ahead)
      fun value ty after _ intact holds => ?_
    exact (visitTarget_fills sound excused value.span ty after holds.2 target wasTarget).within
      (fun _ _ grown inner => intact_append.mpr ⟨inner, intact.later grown⟩)
      fun _ _ _ holds' => ⟨holds'.2, holds'.1⟩
  | .assertion value described, was => by
    simp only [visitExpr]
    obtain ⟨wasValue, wasDescribed⟩ := was_append.mp was
    refine (visitNode_fills sound excused false checker value wasValue).andSettle sound
      (fun _ _ _ => wasDescribed.behind)
      fun value ty after _ holds => ?_
    exact sound.bind_step (sound.assertType terms.setup.annotations value.span ty after described
      trivial fun node member => ⟨fun other typed =>
        excused other (wasDescribed node member other typed), fun _ _ => trivial⟩)
      fun _ _ leads _ => sound.pure ⟨sound.keeps leads holds.2, holds.1⟩
  | .object fields, was => by
    simp only [visitExpr]
    refine (visitFields_fills sound excused checker fields was).andSettle sound
      (fun _ _ _ intact => intact) fun fields types after _ holds => ?_
    refine (sound.newObject holds.2).also ?_
    rintro _ _ - ⟨⟩ fit
    exact ⟨fit, _, rfl, after.heap.holdsLast_newObject holds.1⟩
  | .variant tag args, was => by
    simp only [visitExpr]
    refine (visitNodes_fills sound excused false checker args was).andSettle sound
      (fun _ _ _ intact => intact) fun args types after _ holds => ?_
    refine (sound.newVariant tag holds.2).also ?_
    rintro _ _ - ⟨⟩ fit
    exact ⟨fit, _, types, rfl, after.heap.tag?_newVariant tag types, holds.1⟩
  | .define name value, was => by
    simp only [visitExpr]
    refine (visitNode_fills sound excused false checker value was).andSettle sound
      (fun _ _ _ intact => intact) fun _ ty after _ holds => ?_
    refine (sound.defineName toplevel span name holds.2).also fun _ _ _ done fit => ⟨fit, ?_⟩
    cases toplevel <;> cases done <;> rfl
  | .require name, was => by
    simp only [visitExpr]
    exact .settle (was.intact _) ((sound.typeOfRequire span name checker).also
      fun _ _ _ _ fit => ⟨fit, trivial⟩)
  | .inlay inner, was => by
    simp only [visitExpr]
    refine (visitNode_fills sound excused false checker inner was).andSettle sound
      (fun _ _ _ intact => intact) fun _ ty after _ holds => ?_
    refine (sound.noteInlay span holds.2).also ?_
    rintro _ _ - ⟨⟩ fit
    exact ⟨fit, rfl⟩

theorem visitTarget_fills (sound : (terms.registering levels).Sound terms.setup run)
    (excused : ∀ ty, old ty → terms.typed) (valueSpan : Span) (new : Ty) (checker : Checker)
    (fit : checker.stock.Explains new) : (target : Node) → Was old target.preorder →
    terms.Fills levels old Node.preorder (visitTarget terms.setup run valueSpan new target) checker
      Holds
  | .mk span slot (.ident name), was => by
    simp only [visitTarget]
    exact .assign sound excused (was_cons.mp was).1 intact_nil
      ((sound.updateVariable span valueSpan name fit).also fun _ _ _ _ fit => ⟨fit, trivial⟩)
  | .mk span slot (.dot base field), was => by
    simp only [visitTarget]
    obtain ⟨own, wasBase⟩ := was_cons.mp was
    split
    · refine (visitNode_fills sound excused false checker base wasBase).andThen sound
        (fun _ _ _ inner => intact_cons.mpr ⟨fun ty typed => .inl (own ty typed), inner⟩)
        fun base ty after leads intact holds => ?_
      refine .assign sound excused own intact ((sound.updateField base.span valueSpan field holds.2
        (sound.keeps leads fit)).also fun _ _ _ done fit => ?_)
      obtain ⟨id, rfl, held⟩ := updateField_held holds.2 done
      exact ⟨fit, id, holds.1, held⟩
    · exact .settle (was.intact _) (sound.stops checker span _ trivial)
  | .mk span _ (.literal _), was | .mk span _ (.call _), was | .mk span _ (.block _ _), was
  | .mk span _ (.ifThen _ _), was | .mk span _ (.ifThenElse _ _ _), was
  | .mk span _ (.whileLoop _ _), was | .mk span _ (.caseOf _ _), was | .mk span _ (.update _ _), was
  | .mk span _ (.assertion _ _), was | .mk span _ (.object _), was | .mk span _ (.variant _ _), was
  | .mk span _ (.define _ _), was | .mk span _ (.require _), was | .mk span _ (.inlay _), was => by
    simp only [visitTarget]
    exact .settle (was.intact _) (sound.stops checker span _ trivial)

theorem visitNodes_fills (sound : (terms.registering levels).Sound terms.setup run)
    (excused : ∀ ty, old ty → terms.typed) (toplevel : Bool) (checker : Checker) :
    (nodes : List Node) → Was old (preorderNodes nodes) →
    terms.Fills levels old preorderNodes (visitNodes terms.setup run toplevel nodes) checker
      HoldsEach
  | [], _ => by
    simp only [visitNodes]
    exact .settle intact_nil (sound.pure ⟨rfl, List.forall_mem_nil _⟩)
  | node :: rest, was => by
    simp only [visitNodes]
    obtain ⟨wasNode, wasRest⟩ := was_append.mp was
    refine (visitNode_fills sound excused toplevel checker node wasNode).andThen sound
      (fun _ _ _ => wasRest.behind)
      fun node ty after _ intact holds => ?_
    refine (visitNodes_fills sound excused toplevel after rest wasRest).andSettle sound
      (fun _ _ => intact.ahead)
      fun rest types later leads holds' => sound.pure ⟨?_, ?_⟩
    · rw [List.map_cons, List.map_cons, holds.1, holds'.1]
    · exact List.forall_mem_cons.mpr ⟨sound.keeps leads holds.2, holds'.2⟩

theorem visitFields_fills (sound : (terms.registering levels).Sound terms.setup run)
    (excused : ∀ ty, old ty → terms.typed) (checker : Checker) : (fields : List Field) →
    Was old (preorderFields fields) →
    terms.Fills levels old preorderFields (visitFields terms.setup run fields) checker
      fun typed types after =>
        typed.map Field.entry = types.map (fun field => (field.1, some field.2)) ∧
          ∀ field ∈ types, after.stock.Explains field.2
  | [], _ => by
    simp only [visitFields]
    exact .settle intact_nil (sound.pure ⟨rfl, List.forall_mem_nil _⟩)
  | .mk name value :: rest, was => by
    simp only [visitFields]
    obtain ⟨wasValue, wasRest⟩ := was_append.mp was
    refine (visitNode_fills sound excused false checker value wasValue).andThen sound
      (fun _ _ _ => wasRest.behind)
      fun value ty after _ intact holds => ?_
    refine (visitFields_fills sound excused after rest wasRest).andSettle sound
      (fun _ _ => intact.ahead)
      fun rest types later leads holds' => sound.pure ⟨?_, ?_⟩
    · rw [List.map_cons, List.map_cons, Field.entry, holds.1, holds'.1]
    · exact List.forall_mem_cons.mpr ⟨sound.keeps leads holds.2, holds'.2⟩

theorem visitArms_fills (sound : (terms.registering levels).Sound terms.setup run)
    (excused : ∀ ty, old ty → terms.typed) (span : Span) {names : List String}
    (checker : Checker) : (arms : List Arm) → (choices : List (Option (List Ty))) →
    (previous : Option Ty) → List.Forall₂ (SelectedBy names) arms choices →
    Was old (preorderArms arms) → (terms.registering levels).FitChoices checker choices →
    (∀ ty ∈ previous, checker.stock.Explains ty) →
    terms.Fills levels old preorderArms (visitArms terms.setup run span arms choices previous)
      checker (Joined old names previous)
  | arm :: rest, some expected :: choices, previous, .cons selected others, was, fitChoices,
      fitPrevious => by
    simp only [visitArms]
    obtain ⟨wasArm, wasRest⟩ := was_append.mp was
    refine (visitArm_fills sound excused checker expected arm (selected.lengths expected rfl) wasArm
      (fitChoices _ List.mem_cons_self expected rfl)).andThen sound
      (fun _ _ _ => wasRest.behind)
      fun typedArm ty after leads intact typed => ?_
    have joins : terms.Fills levels old (fun _ => []) (.settle () (joinArm span previous ty)) after
        fun _ joined later => later.stock.Explains joined ∧ joined = previous.getD ty := by
      refine .settle intact_nil ((sound.joinArm span
        (fun other member => sound.keeps leads (fitPrevious other member)) typed.explained).also
          fun _ _ _ done fit => ?_)
      cases previous with
      | none =>
        cases done
        exact ⟨fit, rfl⟩
      | some expected => exact ⟨fit, joinTypes_left done⟩
    refine joins.andThen sound
      (fun _ _ grown _ => wasRest.behind (intact.later grown)) ?_
    rintro - _ later leads' - ⟨fitJoined, rfl⟩
    have fitRest : (terms.registering levels).FitChoices later choices :=
      fun choice member types chosen => sound.keepsAll (sound.leads_trans leads leads')
        (fitChoices choice (List.mem_cons_of_mem _ member) types chosen)
    refine (visitArms_fills sound excused span later rest choices _ others wasRest fitRest
      fun ty member => Option.mem_some.mp member ▸ fitJoined).within
      (fun _ _ => (intact.later leads'.grows).ahead) fun typedRest result last joined => ?_
    have known : typedArm.tag ∈ names := typed.tag ▸ selected.known.mp rfl
    have kept := joined.keeps _ rfl
    refine ⟨List.forall_mem_cons.mpr ⟨(if_pos known).mpr typed.nodes, joined.settled⟩,
      joined.explained, ?_, ?_⟩
    · rintro _ ⟨⟩
      exact kept
    · rintro rfl _ member
      rw [kept] at member
      cases member
      exact ⟨typedArm, List.find?_cons_of_pos (decide_eq_true known), typed.last⟩
  | arm :: rest, none :: choices, previous, .cons selected others, was, fitChoices,
      fitPrevious => by
    simp only [visitArms]
    obtain ⟨wasArm, wasRest⟩ := was_append.mp was
    refine (visitArms_fills sound excused span checker rest choices previous others wasRest
      (fun choice member => fitChoices choice (List.mem_cons_of_mem _ member)) fitPrevious).within
      (fun _ _ _ => wasArm.ahead)
      fun typedRest result last joined => ?_
    have unknown : arm.tag ∉ names := fun member => nomatch selected.known.mpr member
    refine ⟨List.forall_mem_cons.mpr ⟨(if_neg unknown).mpr wasArm, joined.settled⟩,
      joined.explained, joined.keeps, fun start ty member => ?_⟩
    obtain ⟨first, found, lastTy⟩ := joined.first start ty member
    exact ⟨first, (List.find?_cons_of_neg (by simpa using unknown)).trans found, lastTy⟩
  | [], [], previous, .nil, _, _, fitPrevious => by
    simp only [visitArms]
    refine .settle intact_nil
      (sound.pure ⟨List.forall_mem_nil _, fitPrevious, fun _ same => same, ?_⟩)
    rintro rfl
    exact nofun

theorem visitArm_fills (sound : (terms.registering levels).Sound terms.setup run)
    (excused : ∀ ty, old ty → terms.typed) (checker : Checker) (expected : List Ty) :
    (arm : Arm) → expected.length = arm.pattern.length → Was old arm.preorder →
    (terms.registering levels).FitAll checker expected →
    terms.Fills levels old Arm.preorder (visitArm terms.setup run expected arm) checker
      (TypedArm arm)
  | .mk span tag args body, lengths, was, fit => by
    simp only [visitArm]
    obtain ⟨wasArgs, wasBody⟩ := was_append.mp was
    refine .inScope sound ?_ fun _ _ _ typed =>
      ⟨typed.tag, typed.nodes, typed.last, typed.explained⟩
    refine (bindPattern_fills sound excused args expected checker.enterScope lengths wasArgs
      fit).andThen sound
      (fun _ _ _ => wasBody.behind)
      fun args _ after _ intact typedArgs => ?_
    refine (visitNodes_fills sound excused false after body wasBody).andSettle sound
      (fun _ _ => intact.ahead)
      fun body types later _ holds => sound.pure ⟨rfl, ?_, lastType_of_slots holds.1, ?_⟩
    · exact List.forall_mem_append.mpr ⟨typedArgs, isTyped_of_slots holds.1⟩
    · exact sound.fits_ofBody holds.2

end

end

end CallTyping
