/-
This file follows two passes beside each other, one over a sketch and one over a
completion of it. From states that are parallel, both come to the same and to states
that are parallel again, unless the pass over the sketch stops at a hole. Open parts
are neither looked at nor remembered in another way than by where they stand.
-/

import CallTyping.Proofs.Parallel

namespace CallTyping

/-- The reason to stop is a hole: a fault at the place that is kept for holes. -/
def ReachesHole {α : Type} (place : Span) (answer : Except Stop α) : Prop :=
  ∃ error, answer = .error (.fault error) ∧ error.span = place

/-- Related answers, or the same reason to give none. -/
inductive SameAnswer {α β : Type} (good : α → β → Prop) : Except Stop α → Except Stop β → Prop where
  | ok {answer : α} {answer' : β} : good answer answer' → SameAnswer good (.ok answer) (.ok answer')
  | error (stop : Stop) : SameAnswer good (.error stop) (.error stop)

theorem SameAnswer.eq {α : Type} {first second : Except Stop α}
    (same : SameAnswer Eq first second) : second = first := by
  cases same with
  | ok equal => rw [equal]
  | error stop => rfl

/-- The first step has reached a hole, or the second one has come to the same. -/
def SameStep {α β : Type} (place : Span) (good : α → β → Prop) (first : Except Stop α × Checker)
    (second : Except Stop β × Checker) : Prop :=
  ReachesHole place first.1 ∨ SameAnswer good first.1 second.1 ∧ Parallel place first.2 second.2

/-- The first visit has reached a hole, or the second one has come to the same. -/
def SameVisit {α α' β β' : Type} (place : Span) (pieces : α → α' → Prop) (good : β → β' → Prop)
    (first : (α × Except Stop β) × Checker) (second : (α' × Except Stop β') × Checker) : Prop :=
  ReachesHole place first.1.2 ∨
    pieces first.1.1 second.1.1 ∧ SameAnswer good first.1.2 second.1.2 ∧
      Parallel place first.2 second.2

/-- From states that are parallel, the second step does what the first one does. -/
def FollowsStep {α β : Type} (place : Span) (good : α → β → Prop) (first : Check α)
    (second : Check β) : Prop :=
  ∀ checker checker', Parallel place checker checker' →
    SameStep place good (first.outcome checker) (second.outcome checker')

/-- From states that are parallel, the second visit does what the first one does. -/
def Follows {α α' β β' : Type} (place : Span) (pieces : α → α' → Prop) (good : β → β' → Prop)
    (first : Visit α β) (second : Visit α' β') : Prop :=
  ∀ checker checker', Parallel place checker checker' →
    SameVisit place pieces good (first checker) (second checker')

variable {α α' β β' γ γ' δ δ' : Type} {place : Span}

/-! ### Sequences of steps -/

namespace FollowsStep

variable {good : α → β → Prop} {better : γ → δ → Prop}

theorem answered {answer : α} {answer' : β} (relates : good answer answer') :
    FollowsStep place good (pure answer) (pure answer') :=
  fun _ _ parallel => .inr ⟨.ok relates, parallel⟩

theorem read : FollowsStep place (Parallel place) get get :=
  fun _ _ parallel => .inr ⟨.ok parallel, parallel⟩

theorem changed {change change' : Checker → Checker}
    (keeps : ∀ checker checker', Parallel place checker checker' →
      Parallel place (change checker) (change' checker')) :
    FollowsStep place Eq (modify change : Check Unit) (modify change') :=
  fun checker checker' parallel => .inr ⟨.ok rfl, keeps checker checker' parallel⟩

theorem rebound (change : Bindings → Bindings) :
    FollowsStep place Eq (modifyBindings change) (modifyBindings change) :=
  changed fun checker checker' parallel => by
    rw [parallel.bindings]
    exact parallel.withBindings _

theorem recorded (event event' : Event) : FollowsStep place Eq (record event) (record event') :=
  changed fun _ _ parallel => parallel.withLogs _ _

theorem failed (span : Span) (fault : Fault) :
    FollowsStep place good (fail span fault) (fail span fault) :=
  fun checker checker' parallel => by
    show _ ∨ SameAnswer good (.error (.fault ⟨checker.file, span, fault⟩))
      (.error (.fault ⟨checker'.file, span, fault⟩)) ∧ Parallel place checker checker'
    rw [parallel.file]
    exact .inr ⟨.error _, parallel⟩

theorem stopped (stop : Stop) : FollowsStep place good (throw stop) (throw stop) :=
  fun _ _ parallel => .inr ⟨.error stop, parallel⟩

theorem bind {step : Check α} {step' : Check β} {next : α → Check γ} {next' : β → Check δ}
    (start : FollowsStep place good step step')
    (rest : ∀ answer answer', good answer answer' →
      FollowsStep place better (next answer) (next' answer')) :
    FollowsStep place better (step >>= next) (step' >>= next') := by
  intro checker checker' parallel
  have both := start checker checker' parallel
  rw [Check.outcome_bind, Check.outcome_bind]
  generalize step.outcome checker = ended, step'.outcome checker' = ended' at both ⊢
  obtain ⟨answer, after⟩ := ended
  obtain ⟨answer', after'⟩ := ended'
  rcases both with ⟨error, rfl, there⟩ | ⟨same, parallel⟩
  · exact .inl ⟨error, rfl, there⟩
  cases same with
  | ok relates => exact rest _ _ relates after after' parallel
  | error stop => exact .inr ⟨.error stop, parallel⟩

/-- A sequence whose first steps give the same answer. -/
theorem andThen {step step' : Check α} {next : α → Check γ} {next' : α → Check δ}
    (start : FollowsStep place Eq step step')
    (rest : ∀ answer, FollowsStep place better (next answer) (next' answer)) :
    FollowsStep place better (step >>= next) (step' >>= next') :=
  start.bind fun answer _ same => same ▸ rest answer

/-! ### Rules that do not look into the tree -/

theorem typeOfName (span : Span) (name : String) :
    FollowsStep place Eq (typeOfName span name) (typeOfName span name) :=
  read.bind fun checker checker' parallel => by
    rw [parallel.lookup]
    cases checker.lookup name with
    | none => exact failed _ _
    | some ty => exact answered rfl

theorem defineName (toplevel : Bool) (span : Span) (name : String) (ty : Ty) :
    FollowsStep place Eq (defineName toplevel span name ty) (defineName toplevel span name ty) :=
  read.bind fun checker checker' parallel => by
    rw [parallel.file]
    cases toplevel with
    | true => exact (rebound _).andThen fun _ => answered rfl
    | false => exact (rebound _).andThen fun _ => answered rfl

theorem noteInlay (span : Span) (ty : Ty) :
    FollowsStep place Eq (noteInlay span ty) (noteInlay span ty) :=
  read.bind fun checker checker' parallel => by
    rw [parallel.file]
    refine (recorded _ _).andThen fun _ => ?_
    exact (changed fun _ _ parallel => parallel.withInlay span ty).andThen fun _ => answered rfl

theorem joinTypes (reason : String) (span : Span) (expected found : Ty) :
    FollowsStep place Eq (joinTypes reason span expected found)
      (joinTypes reason span expected found) :=
  read.bind fun checker checker' parallel => by
    rw [parallel.heap]
    cases checker.heap.join expected found with
    | none => exact failed _ _
    | some joined =>
      exact (changed fun _ _ parallel => parallel.withHeap joined.2).andThen fun _ => answered rfl

theorem expectBool (span : Span) (ty : Ty) :
    FollowsStep place Eq (expectBool span ty) (expectBool span ty) := by
  unfold CallTyping.expectBool
  cases ty.isBool with
  | true => exact answered rfl
  | false => exact failed _ _

theorem typeOfConditional (span conditionSpan : Span) (condition body alternative : Ty) :
    FollowsStep place Eq (typeOfConditional span conditionSpan condition body alternative)
      (typeOfConditional span conditionSpan condition body alternative) :=
  (expectBool conditionSpan condition).andThen fun _ => joinTypes _ span body alternative

theorem newObject (fields : List (String × Ty)) :
    FollowsStep place Eq (newObject fields) (newObject fields) :=
  read.bind fun checker checker' parallel => by
    rw [parallel.heap]
    exact (changed fun _ _ parallel => parallel.withHeap _).andThen fun _ => answered rfl

theorem newVariant (tag : String) (args : List Ty) :
    FollowsStep place Eq (newVariant tag args) (newVariant tag args) :=
  read.bind fun checker checker' parallel => by
    rw [parallel.heap]
    exact (changed fun _ _ parallel => parallel.withHeap _).andThen fun _ => answered rfl

theorem expectObject (span : Span) (ty : Ty) :
    FollowsStep place Eq (expectObject span ty) (expectObject span ty) := by
  cases ty with
  | object id => exact answered rfl
  | _ => exact failed _ _

theorem expectVariant (span : Span) (ty : Ty) :
    FollowsStep place Eq (expectVariant span ty) (expectVariant span ty) := by
  cases ty with
  | variant id => exact answered rfl
  | _ => exact failed _ _

theorem typeOfField (span : Span) (ty : Ty) (field : String) :
    FollowsStep place Eq (typeOfField span ty field) (typeOfField span ty field) :=
  (expectObject span ty).andThen fun object => read.bind fun checker checker' parallel => by
    rw [parallel.heap]
    cases checker.heap.field? object field with
    | none => exact failed _ _
    | some found => exact answered rfl

theorem updateVariable (span valueSpan : Span) (name : String) (new : Ty) :
    FollowsStep place Eq (updateVariable span valueSpan name new)
      (updateVariable span valueSpan name new) :=
  (typeOfName span name).andThen fun old => (joinTypes _ valueSpan old new).andThen fun joined =>
    read.bind fun checker checker' parallel => by
      rw [parallel.file]
      exact (rebound _).andThen fun _ => answered rfl

theorem updateField (objectSpan valueSpan : Span) (ty : Ty) (field : String) (new : Ty) :
    FollowsStep place Eq (updateField objectSpan valueSpan ty field new)
      (updateField objectSpan valueSpan ty field new) := by
  refine (expectObject objectSpan ty).andThen fun object => ?_
  refine read.bind fun checker checker' parallel => ?_
  have ends (joined : Ty) : FollowsStep place Eq
      (do
        modify fun checker => { checker with heap := checker.heap.setField object field joined }
        return joined : Check Ty)
      (do
        modify fun checker => { checker with heap := checker.heap.setField object field joined }
        return joined : Check Ty) :=
    (changed fun _ _ parallel => by
      rw [parallel.heap]
      exact parallel.withHeap _).andThen fun _ => answered rfl
  rw [parallel.heap]
  cases checker.heap.field? object field with
  | none => exact (answered rfl).andThen ends
  | some old => exact (joinTypes _ valueSpan old new).andThen ends

theorem expectKind (span : Span) (expected : Kind) (ty : Ty) :
    FollowsStep place Eq (expectKind span expected ty) (expectKind span expected ty) := by
  unfold CallTyping.expectKind
  by_cases same : ty.kind = expected
  · rw [if_pos same]
    exact answered rfl
  · rw [if_neg same]
    exact failed _ _

theorem annotatedField (span : Span) (ty : Ty) (field : String) :
    FollowsStep place Eq (annotatedField span ty field) (annotatedField span ty field) := by
  cases ty with
  | object id =>
    refine read.bind fun checker checker' parallel => ?_
    rw [parallel.heap]
    cases checker.heap.field? id field with
    | none => exact failed _ _
    | some found => exact answered rfl
  | _ => exact failed _ _

theorem joinArm (span : Span) (previous : Option Ty) (ty : Ty) :
    FollowsStep place Eq (joinArm span previous ty) (joinArm span previous ty) := by
  cases previous with
  | none => exact answered rfl
  | some expected => exact joinTypes _ span expected ty

theorem typeOfMatch (span : Span) (scrutinee : Ty) (arms : Option Ty) :
    FollowsStep place Eq (typeOfMatch span scrutinee arms) (typeOfMatch span scrutinee arms) := by
  cases arms with
  | none => exact failed _ _
  | some ty => exact answered rfl

theorem exposeFile (span : Span) (name file : String) :
    FollowsStep place Eq (exposeFile span name file) (exposeFile span name file) :=
  read.bind fun checker checker' parallel => by
    rw [show checker'.definitions file = checker.definitions file from
      congrArg (Bindings.definitions · file) parallel.bindings]
    dsimp only
    split
    · exact failed _ _
    · exact (newObject _).andThen fun ty =>
        (defineName true span name ty).andThen fun _ => answered rfl

/-! ### Rules that are given parts of the tree -/

/-- Two blocks at one place have the same type, whatever is known of their bodies. -/
theorem typeOfBlock (span : Span) (params : List String) {body body' : Program}
    (bodies : CompletesBody place body body') :
    FollowsStep place Eq (typeOfBlock span params body) (typeOfBlock span params body') :=
  fun checker checker' parallel => by
    have same : checker'.closures.reserve.1 = checker.closures.reserve.1 :=
      congrArg ClosureId.mk parallel.next
    -- The type tells the identity and the parameters; the body is only remembered.
    refine .inr ⟨.ok ?_, parallel.remember ⟨rfl, rfl, parallel.file, ?_, bodies.fresh⟩⟩
    · exact congrArg (Ty.function · params.length []) same.symm
    · exact congrArg Bindings.scopes parallel.bindings

mutual

theorem assertType (annotations : Annotations) (span : Span) (ty : Ty) : (sketch : Node) →
    {full : Node} → CompletesNode place sketch full →
      FollowsStep place Eq (assertType annotations span ty sketch)
        (assertType annotations span ty full)
  | .mk place _ sketch, _, .mk _ _ completes => by
    cases completes with
    | object inFields =>
      simp only [CallTyping.assertType]
      exact (expectKind span .object ty).andThen fun _ =>
        assertFields annotations span ty _ inFields
    | ident name =>
      simp only [CallTyping.assertType]
      cases annotations name with
      | none => exact failed _ _
      | some expected => exact expectKind span expected ty
    | _ => exact failed place .malformedAssertion

theorem assertFields (annotations : Annotations) (span : Span) (ty : Ty) :
    (sketch : List Field) → {full : List Field} → CompletesFields place sketch full →
      FollowsStep place Eq (assertFields annotations span ty sketch)
        (assertFields annotations span ty full)
  | [], _, .nil => answered rfl
  | .mk name annotation :: rest, _, .cons _ inAnnotation inRest => by
    simp only [CallTyping.assertFields]
    exact (annotatedField span ty name).andThen fun found =>
      (assertType annotations span found annotation inAnnotation).andThen fun _ =>
        assertFields annotations span ty rest inRest

end

end FollowsStep

/-! ### The choice of arms -/

theorem CompletesNodes.length : {sketch full : List Node} → CompletesNodes place sketch full →
    full.length = sketch.length
  | _, _, .nil => rfl
  | _, _, .cons _ inRest => congrArg (· + 1) inRest.length

/-- The arms of a sketch and of a completion are chosen alike, and no open arm is. -/
inductive Chosen (place : Span) :
    List Arm → List Arm → List (Option (List Ty)) → List (Option (List Ty)) → Prop where
  | nil : Chosen place [] [] [] []
  | cons {arm arm' : Arm} {rest rest' : List Arm} {choices choices' : List (Option (List Ty))}
      (choice : Option (List Ty)) : CompletesArm place arm arm' →
    Chosen place rest rest' choices choices' →
      Chosen place (arm :: rest) (arm' :: rest') (choice :: choices) (choice :: choices')
  | skipped (span : Span) (tag : String) (args body : List Node) {rest rest' : List Arm}
      {choices choices' : List (Option (List Ty))} : Chosen place rest rest' choices choices' →
    Chosen place (openArms place tag ++ rest) (.mk span tag args body :: rest')
      (none :: none :: choices) (none :: choices')

section

variable {unknown : UnknownArms} {variant : VariantId} {span : Span} {tag : String}
  {args body : List Node} {checker : Checker}

theorem outcome_selectArm_known {expected : List Ty}
    (known : checker.heap.tag? variant tag = some expected) :
    (selectArm unknown variant (.mk span tag args body)).outcome checker =
      if expected.length = args.length then (.ok (some expected), checker)
      else (.error (.fault ⟨checker.file, span,
        .tagArityMismatch tag expected.length args.length⟩), checker) := by
  rw [selectArm, Check.outcome_bind, Check.outcome_get]
  dsimp only
  rw [known]
  dsimp only
  split <;> rfl

theorem outcome_selectArm_skipped (new : checker.heap.tag? variant tag = none) :
    (selectArm .skip variant (.mk span tag args body)).outcome checker =
      (.ok none, { checker with
        log := checker.log.push (.armSkipped tag (checker.heap.text (.variant variant))) }) := by
  rw [selectArm, Check.outcome_bind, Check.outcome_get]
  dsimp only
  rw [new]
  rfl

theorem outcome_selectArm_rejected (new : checker.heap.tag? variant tag = none) :
    (selectArm .reject variant (.mk span tag args body)).outcome checker =
      (.error (.fault ⟨checker.file, span, .unknownTag tag (.variant variant)⟩), checker) := by
  rw [selectArm, Check.outcome_bind, Check.outcome_get]
  dsimp only
  rw [new]
  rfl

end

namespace FollowsStep

theorem selectArm (unknown : UnknownArms) (variant : VariantId) {arm arm' : Arm}
    (completes : CompletesArm place arm arm') :
    FollowsStep place Eq (selectArm unknown variant arm) (selectArm unknown variant arm') := by
  obtain ⟨span, tag, inArgs, -⟩ := completes
  refine read.bind fun checker checker' parallel => ?_
  rw [parallel.heap, inArgs.length]
  dsimp only
  cases checker.heap.tag? variant tag with
  | some expected =>
    dsimp only
    split
    · exact answered rfl
    · exact failed _ _
  | none =>
    cases unknown with
    | skip => exact (recorded _ _).andThen fun _ => answered rfl
    | reject => exact failed _ _

/-- An open arm is skipped like any arm of its tag, or it is a hole. -/
theorem selectOpenArm (unknown : UnknownArms) (variant : VariantId) (span : Span) (tag : String)
    (args body : List Node) :
    FollowsStep place (fun choices choice => choices = (none, none) ∧ choice = none)
      (do
        let first ← CallTyping.selectArm unknown variant (.mk place tag [] [])
        let second ← CallTyping.selectArm unknown variant (.mk place tag [.hole place] [])
        return (first, second))
      (CallTyping.selectArm unknown variant (.mk span tag args body)) :=
  fun checker checker' parallel => by
    cases known : checker.heap.tag? variant tag with
    | some expected =>
      -- The two arms take different numbers of arguments, so one of them does not fit.
      left
      by_cases empty : expected.length = 0
      · rw [Check.outcome_bind, outcome_selectArm_known known, List.length_nil, if_pos empty]
        dsimp only
        rw [Check.outcome_bind, outcome_selectArm_known known, if_neg (by simp [empty])]
        exact ⟨_, rfl, rfl⟩
      · rw [Check.outcome_bind, outcome_selectArm_known known, List.length_nil, if_neg empty]
        exact ⟨_, rfl, rfl⟩
    | none =>
      cases unknown with
      | reject =>
        left
        rw [Check.outcome_bind, outcome_selectArm_rejected known]
        exact ⟨_, rfl, rfl⟩
      | skip =>
        right
        have known' : checker'.heap.tag? variant tag = none := by rw [parallel.heap, known]
        rw [Check.outcome_bind, outcome_selectArm_skipped known, outcome_selectArm_skipped known']
        dsimp only
        rw [Check.outcome_bind, outcome_selectArm_skipped (by exact known)]
        exact ⟨.ok ⟨rfl, rfl⟩, parallel.withLogs _ _⟩

theorem selectArms (unknown : UnknownArms) (variant : VariantId) : (full : List Arm) →
    {sketch : List Arm} → CompletesArms place sketch full →
      FollowsStep place (Chosen place sketch full) (selectArms unknown variant sketch)
        (selectArms unknown variant full)
  | [], _, .nil => answered .nil
  | _ :: rest, _, .cons inArm inRest =>
    (selectArm unknown variant inArm).andThen fun choice =>
      (selectArms unknown variant rest inRest).bind fun _ _ chosen =>
        answered (.cons choice inArm chosen)
  | _ :: rest, _, .openArm span tag args body inRest => by
    have both := (selectOpenArm unknown variant span tag args body).bind
      fun choices choice skipped => (selectArms unknown variant rest inRest).bind
        fun others others' chosen => (answered (by
          rw [skipped.1, skipped.2]
          exact .skipped span tag args body chosen) :
          FollowsStep place (Chosen place _ _)
            (pure (choices.1 :: choices.2 :: others)) (pure (choice :: others')))
    simpa only [CallTyping.selectArms, openArms, List.cons_append, List.nil_append, bind_assoc,
      pure_bind] using both

end FollowsStep

/-! ### Sequences of visits -/

namespace Follows

variable {pieces : α → α' → Prop} {others : γ → γ' → Prop} {good : β → β' → Prop}
  {better : δ → δ' → Prop}

theorem settle {tree : α} {tree' : α'} (related : pieces tree tree') {step : Check β}
    {step' : Check β'} (follows : FollowsStep place good step step') :
    Follows place pieces good (.settle tree step) (.settle tree' step') :=
  fun checker checker' parallel => (follows checker checker' parallel).imp_right fun both =>
    ⟨related, both⟩

theorem bind {visit : Visit α β} {visit' : Visit α' β'} {around : α → γ} {around' : α' → γ'}
    {next : α → β → Visit γ δ} {next' : α' → β' → Visit γ' δ'}
    (start : Follows place pieces good visit visit')
    (puts : ∀ piece piece', pieces piece piece' → others (around piece) (around' piece'))
    (rest : ∀ piece piece', pieces piece piece' → ∀ found found', good found found' →
      Follows place others better (next piece found) (next' piece' found')) :
    Follows place others better (visit.andThen around next) (visit'.andThen around' next') :=
  fun checker checker' parallel => by
    have both := start checker checker' parallel
    unfold Visit.andThen
    generalize visit checker = ended, visit' checker' = ended' at both ⊢
    obtain ⟨⟨piece, answer⟩, after⟩ := ended
    obtain ⟨⟨piece', answer'⟩, after'⟩ := ended'
    rcases both with ⟨error, rfl, there⟩ | ⟨related, same, parallel⟩
    · exact .inl ⟨error, rfl, there⟩
    cases same with
    | ok relates => exact rest _ _ related _ _ relates after after' parallel
    | error stop => exact .inr ⟨puts _ _ related, .error stop, parallel⟩

/-- A sequence whose first visits give the same answer. -/
theorem andThen {visit : Visit α β} {visit' : Visit α' β} {around : α → γ} {around' : α' → γ'}
    {next : α → β → Visit γ δ} {next' : α' → β → Visit γ' δ'}
    (start : Follows place pieces Eq visit visit')
    (puts : ∀ piece piece', pieces piece piece' → others (around piece) (around' piece'))
    (rest : ∀ piece piece', pieces piece piece' → ∀ found,
      Follows place others better (next piece found) (next' piece' found)) :
    Follows place others better (visit.andThen around next) (visit'.andThen around' next') :=
  start.bind puts fun piece piece' related found _ same => same ▸ rest piece piece' related found

/-- A step that leaves the tree as it is, and what comes after it. -/
theorem afterStep {tree : α} {tree' : α'} {step : Check β} {step' : Check β'} {around : α → γ}
    {around' : α' → γ'} {next : α → β → Visit γ δ} {next' : α' → β' → Visit γ' δ'}
    (start : FollowsStep place good step step') (puts : others (around tree) (around' tree'))
    (rest : ∀ found found', good found found' →
      Follows place others better (next tree found) (next' tree' found')) :
    Follows place others better ((Visit.settle tree step).andThen around next)
      ((Visit.settle tree' step').andThen around' next') := by
  have settled : Follows place (fun piece piece' => piece = tree ∧ piece' = tree') good
      (.settle tree step) (.settle tree' step') := settle ⟨rfl, rfl⟩ start
  refine settled.bind ?_ ?_
  · rintro _ _ ⟨rfl, rfl⟩
    exact puts
  · rintro _ _ ⟨rfl, rfl⟩
    exact rest

theorem within {visit : Visit α β} {visit' : Visit α' β'} {around : α → γ} {around' : α' → γ'}
    (follows : Follows place pieces good visit visit')
    (puts : ∀ piece piece', pieces piece piece' → others (around piece) (around' piece')) :
    Follows place others good (visit.within around) (visit'.within around') :=
  fun checker checker' parallel => (follows checker checker' parallel).imp_right
    fun ⟨related, both⟩ => ⟨puts _ _ related, both⟩

theorem inScope {visit : Visit α β} {visit' : Visit α' β'}
    (follows : Follows place pieces good visit visit') :
    Follows place pieces good (visit.between Checker.enterScope Checker.leaveScope)
      (visit'.between Checker.enterScope Checker.leaveScope) :=
  fun _ _ parallel => (follows _ _ parallel.enterScope).imp_right fun ⟨related, same, parallel⟩ =>
    ⟨related, same, parallel.leaveScope⟩

/-- A node gets the type that was found for its expression. -/
theorem asNode (span : Span) {visit visit' : Visit Expr Ty}
    (follows : Follows place (CompletesExpr place) Eq visit visit') :
    Follows place (CompletesNode place) Eq (visit.asNode span) (visit'.asNode span) :=
  fun checker checker' parallel => by
    refine (follows checker checker' parallel).imp_right fun ⟨related, same, still⟩ =>
      ⟨?_, same, still⟩
    have equal := same.eq
    unfold Visit.asNode
    dsimp only
    rw [equal]
    exact .mk span _ related

theorem assign (span : Span) (slot : Option Ty) {sketch full : Expr}
    (completes : CompletesExpr place sketch full) {step step' : Check Ty}
    (follows : FollowsStep place Eq step step') :
    Follows place (CompletesNode place) Eq (.assign (.mk span slot sketch) step)
      (.assign (.mk span slot full) step') := by
  refine afterStep follows (.mk span slot completes) fun ty _ same => ?_
  subst same
  cases slot with
  | none => exact .settle (.mk span (some ty) completes) (.answered rfl)
  | some known => exact .settle (.mk span (some known) completes) (.failed _ _)

/-- The names in a pattern stand for the same types. -/
theorem bindPattern : (types : List Ty) → {sketch full : List Node} →
    CompletesNodes place sketch full →
      Follows place (CompletesNodes place) Eq (bindPattern sketch types) (bindPattern full types)
  | types, _, _, .nil => by
    unfold CallTyping.bindPattern
    exact .settle .nil (.answered rfl)
  | [], _, _, .cons (.mk span slot completes) inRest => by
    have both := CompletesNodes.cons (.mk span slot completes) inRest
    cases completes <;> exact .settle both (.answered rfl)
  | ty :: types, _, _, .cons (.mk span slot completes) inRest => by
    have both := CompletesNodes.cons (.mk span slot completes) inRest
    cases completes with
    | ident name =>
      simp only [CallTyping.bindPattern]
      refine (assign span slot (.ident name) (.answered rfl)).andThen
        (fun _ _ inArg => .cons inArg inRest) fun _ _ inArg _ => ?_
      refine afterStep (.rebound _) (.cons inArg inRest) fun _ _ _ => ?_
      exact (bindPattern types inRest).within fun _ _ inRest => .cons inArg inRest
    | _ =>
      unfold CallTyping.bindPattern
      exact .settle both (.failed _ _)

end Follows

end CallTyping
