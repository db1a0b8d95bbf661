/-
This file proves that code which is not executed has no influence. The parts of a
program that are not executed are left open in a sketch, with a hole in the place of
each. If the check of the sketch does not come to a hole, then the check of every
completion takes the same way: calls find the same closures, matches choose the same
arms, and nobody looks into a body before it is called. So any two completions have
the same result, the same types outside of the open parts, and leave the same
knowledge behind.
-/

import CallTyping.Proofs.Following

namespace CallTyping

variable {place : Span} {setup : Setup} {run : Runner}

/-! ### Calls and loads -/

/-- The runner does the same over a sketch and over a completion, and it does not come to the end
of a body that is left open. -/
structure Fills (place : Span) (run : Runner) : Prop where
  whole (occasion : Occasion) {program program' : Program} :
    CompletesNodes place program program' →
      Follows place (CompletesNodes place) Eq (run occasion program) (run occasion program')
  opened (occasion : Occasion) (body : Program) :
    Follows place (fun _ _ => True) (fun _ _ => False) (run occasion (openBody place))
      (run occasion body)

theorem Parallel.endBody {caller caller' : Checker} (parallel : Parallel place caller caller')
    (id : ClosureId) (args : List Ty) {pieces : Program → Program → Prop}
    {good : List Ty → List Ty → Prop}
    (fits : ∀ body body' types types', pieces body body' → good types types' →
      types = types' ∧ CompletesNodes place body body')
    {ended ended' : (Program × Except Stop (List Ty)) × Checker}
    (same : SameVisit place pieces good ended ended') :
    SameStep place Eq (caller.endBody id args ended) (caller'.endBody id args ended') := by
  obtain ⟨⟨body, answer⟩, after⟩ := ended
  obtain ⟨⟨body', answer'⟩, after'⟩ := ended'
  rcases same with ⟨error, rfl, there⟩ | ⟨bodies, same, still⟩
  · exact .inl ⟨error, rfl, there⟩
  have left := parallel.leaveBody still
  cases same with
  | ok related =>
    obtain ⟨rfl, completes⟩ := fits _ _ _ _ bodies related
    exact .inr ⟨.ok rfl, left.finishCall id args _ completes⟩
  | error stop => exact .inr ⟨.error stop, left.abandonCall id args⟩

theorem Parallel.endFile {previous previous' : Checker}
    (parallel : Parallel place previous previous') (file : String)
    {ended ended' : (Program × Except Stop (List Ty)) × Checker}
    (same : SameVisit place (CompletesNodes place) Eq ended ended') :
    SameStep place Eq (previous.endFile file ended) (previous'.endFile file ended') := by
  obtain ⟨⟨typed, answer⟩, after⟩ := ended
  obtain ⟨⟨typed', answer'⟩, after'⟩ := ended'
  rcases same with ⟨error, rfl, there⟩ | ⟨completes, same, still⟩
  · exact .inl ⟨error, rfl, there⟩
  have left := parallel.leaveFile still file
  cases same with
  | ok => exact .inr ⟨.ok rfl, left.withModule file completes⟩
  | error stop => exact .inr ⟨.error stop, left⟩

namespace FollowsStep

/-- A call that is not recalled finds the same closure, whose body may be left open. -/
theorem runNewClosure (fills : Fills place run) (span : Span) (id : ClosureId) (args : List Ty)
    {checker checker' : Checker} (parallel : Parallel place checker checker')
    (new : checker.cache.recalled? checker.heap id args = none)
    (new' : checker'.cache.recalled? checker'.heap id args = none) :
    SameStep place Eq ((runClosure setup run span id args).outcome checker)
      ((runClosure setup run span id args).outcome checker') := by
  have marked := parallel.markCall id args
  rw [outcome_runClosure_new new, outcome_runClosure_new new', parallel.callDepth, parallel.file]
  split
  · exact .inr ⟨.error _, marked.abandonCall id args⟩
  have closures := parallel.get? id
  generalize checker.closures.get? id = known, checker'.closures.get? id = known' at closures ⊢
  cases closures with
  | none => exact .inr ⟨.error _, marked.abandonCall id args⟩
  | @some closure closure' completes =>
    have begun := parallel.beginBody id completes args
    have bodies := completes.body
    dsimp only
    generalize closure.body = body, closure'.body = body' at bodies ⊢
    cases bodies with
    | whole inBody =>
      exact parallel.endBody id args (fun _ _ _ _ bodies same => ⟨same, bodies⟩)
        (fills.whole (.body id args) inBody _ _ begun)
    | opened =>
      -- The run below never passes here, so no typed bodies have to be compared.
      exact parallel.endBody id args (fun _ _ _ _ _ never => never.elim)
        (fills.opened (.body id args) body' _ _ begun)

/-- A call is recalled by the same entry, or finds the same closure. -/
theorem runClosure (fills : Fills place run) (span : Span) (id : ClosureId) (args : List Ty) :
    FollowsStep place Eq (runClosure setup run span id args) (runClosure setup run span id args) :=
  fun checker checker' parallel => by
    have entries : Option.Rel (CompletesEntry place) (checker.cache.recalled? checker.heap id args)
        (checker'.cache.recalled? checker'.heap id args) := by
      rw [parallel.heap]
      exact parallel.cache.recalled? checker.heap id args
    generalize found : checker.cache.recalled? checker.heap id args = known,
      found' : checker'.cache.recalled? checker'.heap id args = known' at entries
    cases entries with
    | none => exact runNewClosure fills span id args parallel found found'
    | @some entry entry' completes =>
      obtain ⟨stored, progress⟩ := entry
      obtain ⟨stored', progress'⟩ := entry'
      obtain ⟨-, progresses⟩ := completes
      cases progresses with
      | running =>
        rw [outcome_runClosure_running found, outcome_runClosure_running found', parallel.file]
        exact .inr ⟨.error _, parallel⟩
      | done result =>
        rw [outcome_runClosure_known found, outcome_runClosure_known found']
        exact .inr ⟨.ok rfl, parallel.withLogs _ _⟩

theorem applyFunction (fills : Fills place run) (span calleeSpan : Span) (callee : Ty)
    (args : List Ty) :
    FollowsStep place Eq (applyFunction setup run span calleeSpan callee args)
      (applyFunction setup run span calleeSpan callee args) := by
  cases callee with
  | function id arity bound =>
    simp only [CallTyping.applyFunction]
    split
    · exact answered rfl
    · split
      · exact runClosure fills span id _
      · split
        · exact runClosure fills span id _
        · exact failed _ _
  | _ => exact failed _ _

theorem typeOfCall (fills : Fills place run) (span calleeSpan : Span) (types : List Ty) :
    FollowsStep place Eq (typeOfCall setup run span calleeSpan types)
      (typeOfCall setup run span calleeSpan types) := by
  match types with
  | [] | [_] => exact answered rfl
  | callee :: arg :: args => exact applyFunction fills span calleeSpan callee (arg :: args)

/-- Both load the same program, in which nothing is left open. -/
theorem loadFile (fills : Fills place run) (span : Span) (file : String) :
    FollowsStep place Eq (loadFile setup run span file) (loadFile setup run span file) :=
  fun checker checker' parallel => by
    rw [outcome_loadFile, outcome_loadFile]
    cases setup.loader.load file with
    | error message =>
      dsimp only
      refine .inr ⟨?_, parallel.withLoad file⟩
      rw [parallel.file]
      exact .error _
    | ok program =>
      exact parallel.endFile file (fills.whole (.file file) (.refl place program) _ _
        (parallel.beginFile file))

theorem typeOfRequire (fills : Fills place run) (span : Span) (name : String) :
    FollowsStep place Eq (typeOfRequire setup run span name) (typeOfRequire setup run span name) :=
  read.bind fun checker checker' parallel => by
    rw [parallel.file]
    dsimp only
    rw [parallel.isOpen, parallel.bindings]
    split
    · exact failed _ _
    · split
      · exact (recorded _ _).andThen fun _ => exposeFile span name _
      · exact (loadFile fills span _).andThen fun _ => exposeFile span name _

end FollowsStep

/-! ### The pass over a tree -/

theorem CompletesNode.span {sketch full : Node} (completes : CompletesNode place sketch full) :
    full.span = sketch.span := by
  cases completes
  rfl

theorem CompletesNode.isIdent {sketch full : Node} (completes : CompletesNode place sketch full) :
    full.isIdent = sketch.isIdent := by
  obtain ⟨span, slot, completes⟩ := completes
  cases completes <;> rfl

theorem CompletesExpr.kindName {sketch full : Expr} (completes : CompletesExpr place sketch full) :
    full.kindName = sketch.kindName := by
  cases completes <;> rfl

theorem CompletesNodes.calleeSpan {sketch full : List Node}
    (completes : CompletesNodes place sketch full) :
    CallTyping.calleeSpan full = CallTyping.calleeSpan sketch := by
  cases completes with
  | nil => rfl
  | cons inNode => exact inNode.span

/-- Arms that were chosen complete each other. -/
theorem Chosen.completes {sketch full : List Arm} {choices choices' : List (Option (List Ty))}
    (chosen : Chosen place sketch full choices choices') : CompletesArms place sketch full := by
  induction chosen with
  | nil => exact .nil
  | cons _ inArm _ inRest => exact .cons inArm inRest
  | skipped span tag args body _ inRest => exact .openArm span tag args body inRest

theorem Visit.within_within {α β γ δ : Type} (visit : Visit α β) (inner : α → γ) (outer : γ → δ) :
    (visit.within inner).within outer = visit.within fun piece => outer (inner piece) := rfl

namespace Fills

open Follows

mutual

theorem visitNode (fills : Fills place run) (toplevel : Bool) : (sketch : Node) → {full : Node} →
    CompletesNode place sketch full → Follows place (CompletesNode place) Eq
      (visitNode setup run toplevel sketch) (visitNode setup run toplevel full)
  | .mk span slot sketch, _, .mk _ _ completes => by
    unfold CallTyping.visitNode
    rw [completes.kindName]
    refine afterStep (.recorded _ _) (.mk span slot completes) fun _ _ _ => ?_
    cases slot with
    | some ty => exact .settle (.mk span (some ty) completes) (.failed _ _)
    | none => exact .asNode span (visitExpr fills toplevel span sketch completes)
termination_by structural sketch => sketch

theorem visitExpr (fills : Fills place run) (toplevel : Bool) (span : Span) : (sketch : Expr) →
    {full : Expr} → CompletesExpr place sketch full → Follows place (CompletesExpr place) Eq
      (visitExpr setup run toplevel span sketch) (visitExpr setup run toplevel span full)
  | .ident name, _, .ident _ => by
    simp only [CallTyping.visitExpr]
    exact .settle (.ident name) (.typeOfName span name)
  | .literal value, _, .literal _ => by
    simp only [CallTyping.visitExpr]
    exact .settle (.literal value) (.answered rfl)
  | .call children, _, .call completes => by
    simp only [CallTyping.visitExpr]
    refine (visitNodes fills false children completes).andThen (fun _ _ => .call)
      fun _ _ completes types => ?_
    rw [completes.calleeSpan]
    exact .settle (.call completes) (.typeOfCall fills span _ types)
  | .block params body, _, .block _ completes => by
    simp only [CallTyping.visitExpr]
    exact .settle (.block params completes) (.typeOfBlock span params (.whole completes))
  | .block params _, _, .openBlock _ body => by
    simp only [CallTyping.visitExpr]
    exact .settle (.openBlock params body) (.typeOfBlock span params (.opened body))
  | .ifThen condition body, _, .ifThen inCondition inBody => by
    simp only [CallTyping.visitExpr]
    refine (visitNode fills false condition inCondition).andThen
      (fun _ _ inCondition => .ifThen inCondition inBody) fun _ _ inCondition ty => ?_
    refine (visitNodes fills false body inBody).andThen (fun _ _ => .ifThen inCondition)
      fun _ _ inBody _ => ?_
    rw [inCondition.span]
    exact .settle (.ifThen inCondition inBody)
      ((FollowsStep.expectBool _ ty).andThen fun _ => .answered rfl)
  | .ifThenElse condition body alternative, _, .ifThenElse inCondition inBody inAlternative => by
    simp only [CallTyping.visitExpr]
    refine (visitNode fills false condition inCondition).andThen
      (fun _ _ inCondition => .ifThenElse inCondition inBody inAlternative)
      fun _ _ inCondition ty => ?_
    refine (visitNodes fills false body inBody).andThen
      (fun _ _ inBody => .ifThenElse inCondition inBody inAlternative) fun _ _ inBody types => ?_
    refine (visitNodes fills false alternative inAlternative).andThen
      (fun _ _ => .ifThenElse inCondition inBody) fun _ _ inAlternative others => ?_
    rw [inCondition.span]
    exact .settle (.ifThenElse inCondition inBody inAlternative)
      (.typeOfConditional span _ ty (Ty.ofBody types) (Ty.ofBody others))
  | .whileLoop condition body, _, .whileLoop inCondition inBody => by
    simp only [CallTyping.visitExpr]
    refine (visitNode fills false condition inCondition).andThen
      (fun _ _ inCondition => .whileLoop inCondition inBody) fun _ _ inCondition _ => ?_
    exact (visitNodes fills false body inBody).andThen (fun _ _ => .whileLoop inCondition)
      fun _ _ inBody _ => .settle (.whileLoop inCondition inBody) (.answered rfl)
  | .caseOf scrutinee arms, _, .caseOf inScrutinee inArms => by
    simp only [CallTyping.visitExpr]
    refine (visitNode fills false scrutinee inScrutinee).andThen
      (fun _ _ inScrutinee => .caseOf inScrutinee inArms) fun _ _ inScrutinee ty => ?_
    rw [inScrutinee.span]
    refine afterStep ((FollowsStep.expectVariant _ ty).andThen fun variant =>
      .selectArms _ variant _ inArms) (.caseOf inScrutinee inArms) fun _ _ chosen => ?_
    exact (visitArms fills span arms chosen none).andThen (fun _ _ => .caseOf inScrutinee)
      fun _ _ inArms result => .settle (.caseOf inScrutinee inArms) (.typeOfMatch span ty result)
  | .dot target field, _, .dot _ inTarget => by
    simp only [CallTyping.visitExpr]
    refine (visitNode fills false target inTarget).andThen (fun _ _ => .dot field)
      fun _ _ inTarget ty => ?_
    rw [inTarget.span]
    exact .settle (.dot field inTarget) (.typeOfField _ ty field)
  | .update target value, _, .update inTarget inValue => by
    simp only [CallTyping.visitExpr]
    refine (visitNode fills false value inValue).andThen (fun _ _ => .update inTarget)
      fun _ _ inValue ty => ?_
    rw [inValue.span]
    exact (visitTarget fills _ ty target inTarget).within fun _ _ inTarget =>
      .update inTarget inValue
  | .assertion value annotation, _, .assertion inValue inAnnotation => by
    simp only [CallTyping.visitExpr]
    refine (visitNode fills false value inValue).andThen
      (fun _ _ inValue => .assertion inValue inAnnotation) fun _ _ inValue ty => ?_
    rw [inValue.span]
    exact .settle (.assertion inValue inAnnotation)
      ((FollowsStep.assertType setup.annotations _ ty annotation inAnnotation).andThen
        fun _ => .answered rfl)
  | .object fields, _, .object completes => by
    simp only [CallTyping.visitExpr]
    exact (visitFields fills fields completes).andThen (fun _ _ => .object)
      fun _ _ completes types => .settle (.object completes) (.newObject types)
  | .variant tag args, _, .variant _ completes => by
    simp only [CallTyping.visitExpr]
    exact (visitNodes fills false args completes).andThen (fun _ _ => .variant tag)
      fun _ _ completes types => .settle (.variant tag completes) (.newVariant tag types)
  | .define name value, _, .define _ inValue => by
    simp only [CallTyping.visitExpr]
    exact (visitNode fills false value inValue).andThen (fun _ _ => .define name)
      fun _ _ inValue ty => .settle (.define name inValue) (.defineName toplevel span name ty)
  | .require name, _, .require _ => by
    simp only [CallTyping.visitExpr]
    exact .settle (.require name) (.typeOfRequire fills span name)
  | .inlay inner, _, .inlay inInner => by
    simp only [CallTyping.visitExpr]
    exact (visitNode fills false inner inInner).andThen (fun _ _ => .inlay)
      fun _ _ inInner ty => .settle (.inlay inInner) (.noteInlay span ty)
termination_by structural sketch => sketch

theorem visitTarget (fills : Fills place run) (valueSpan : Span) (new : Ty) : (sketch : Node) →
    {full : Node} → CompletesNode place sketch full → Follows place (CompletesNode place) Eq
      (visitTarget setup run valueSpan new sketch) (visitTarget setup run valueSpan new full)
  | .mk span slot sketch, _, .mk _ _ completes => by
    have both := CompletesNode.mk span slot completes
    cases completes with
    | ident name =>
      simp only [CallTyping.visitTarget]
      exact .assign span slot (.ident name) (.updateVariable span valueSpan name new)
    | dot field inBase =>
      simp only [CallTyping.visitTarget]
      rw [inBase.isIdent]
      split
      · refine (visitNode fills false _ inBase).andThen
          (fun _ _ inBase => .mk span slot (.dot field inBase)) fun _ _ inBase ty => ?_
        rw [inBase.span]
        exact .assign span slot (.dot field inBase) (.updateField _ valueSpan ty field new)
      · exact .settle both (.failed _ _)
    | _ => exact .settle both (.failed _ _)
termination_by structural sketch => sketch

theorem visitNodes (fills : Fills place run) (toplevel : Bool) : (sketch : List Node) →
    {full : List Node} → CompletesNodes place sketch full → Follows place (CompletesNodes place) Eq
      (visitNodes setup run toplevel sketch) (visitNodes setup run toplevel full)
  | [], _, .nil => by
    simp only [CallTyping.visitNodes]
    exact .settle .nil (.answered rfl)
  | node :: rest, _, .cons inNode inRest => by
    simp only [CallTyping.visitNodes]
    refine (visitNode fills toplevel node inNode).andThen (fun _ _ inNode => .cons inNode inRest)
      fun _ _ inNode ty => ?_
    exact (visitNodes fills toplevel rest inRest).andThen (fun _ _ => .cons inNode)
      fun _ _ inRest types => .settle (.cons inNode inRest) (.answered rfl)
termination_by structural sketch => sketch

theorem visitFields (fills : Fills place run) : (sketch : List Field) → {full : List Field} →
    CompletesFields place sketch full → Follows place (CompletesFields place) Eq
      (visitFields setup run sketch) (visitFields setup run full)
  | [], _, .nil => by
    simp only [CallTyping.visitFields]
    exact .settle .nil (.answered rfl)
  | .mk name value :: rest, _, .cons _ inValue inRest => by
    simp only [CallTyping.visitFields]
    refine (visitNode fills false value inValue).andThen
      (fun _ _ inValue => .cons name inValue inRest) fun _ _ inValue ty => ?_
    exact (visitFields fills rest inRest).andThen (fun _ _ => .cons name inValue)
      fun _ _ inRest types => .settle (.cons name inValue inRest) (.answered rfl)
termination_by structural sketch => sketch

theorem visitArms (fills : Fills place run) (span : Span) : (sketch : List Arm) →
    {full : List Arm} → {choices choices' : List (Option (List Ty))} →
    Chosen place sketch full choices choices' → (previous : Option Ty) →
      Follows place (CompletesArms place) Eq (visitArms setup run span sketch choices previous)
        (visitArms setup run span full choices' previous)
  | [], _, _, _, .nil, previous => by
    unfold CallTyping.visitArms
    exact .settle .nil (.answered rfl)
  | arm :: rest, _, _, _, .cons (some expected) inArm chosen, previous => by
    simp only [CallTyping.visitArms]
    refine (visitArm fills expected arm inArm).andThen
      (fun _ _ inArm => .cons inArm chosen.completes) fun _ _ inArm ty => ?_
    refine afterStep (.joinArm span previous ty) (.cons inArm chosen.completes)
      fun joined _ same => ?_
    subst same
    exact (visitArms fills span rest chosen (some joined)).within fun _ _ => .cons inArm
  | arm :: rest, _, _, _, .cons none inArm chosen, previous => by
    simp only [CallTyping.visitArms]
    exact (visitArms fills span rest chosen previous).within fun _ _ => .cons inArm
  | _ :: _ :: rest, _, _, _, .skipped tagSpan tag args body chosen, previous => by
    simp only [CallTyping.visitArms]
    rw [Visit.within_within]
    exact (visitArms fills span rest chosen previous).within fun _ _ =>
      .openArm tagSpan tag args body
termination_by structural sketch => sketch

theorem visitArm (fills : Fills place run) (expected : List Ty) : (sketch : Arm) → {full : Arm} →
    CompletesArm place sketch full → Follows place (CompletesArm place) Eq
      (visitArm setup run expected sketch) (visitArm setup run expected full)
  | .mk span tag args body, _, .mk _ _ inArgs inBody => by
    simp only [CallTyping.visitArm]
    refine inScope ?_
    refine (Follows.bindPattern expected inArgs).andThen
      (fun _ _ inArgs => .mk span tag inArgs inBody) fun _ _ inArgs _ => ?_
    exact (visitNodes fills false body inBody).andThen (fun _ _ => .mk span tag inArgs)
      fun _ _ inBody types => .settle (.mk span tag inArgs inBody) (.answered rfl)
termination_by structural sketch => sketch

end

end Fills

/-! ### Runs and checks -/

/-- A body that is left open stops at its hole. -/
theorem runStatements_open (setup : Setup) (run : Runner) (occasion : Occasion) (place : Span)
    (checker : Checker) :
    (runStatements setup run occasion (openBody place) checker).1.2 =
      .error (.fault ⟨checker.file, place, .invalidAssignTarget⟩) := rfl

theorem runWithin_fills (setup : Setup) (levels : Nat) : Fills place (runWithin setup levels) := by
  induction levels with
  | zero =>
    -- Both give up at once, and for the same reason.
    exact ⟨fun _ _ _ completes => .settle completes (.stopped .exhausted),
      fun _ _ => .settle trivial (.stopped .exhausted)⟩
  | succ levels inductionHypothesis =>
    exact ⟨fun occasion _ _ completes =>
        inductionHypothesis.visitNodes occasion.isFile _ completes,
      fun occasion _ checker _ _ =>
        .inl ⟨_, runStatements_open setup _ occasion place checker, rfl⟩⟩

namespace Follows

theorem runFile (fills : Fills place run) (file : String) {sketch full : Program}
    (completes : CompletesNodes place sketch full) :
    Follows place (CompletesNodes place) Eq (runFile run file sketch) (runFile run file full) :=
  fun _ _ parallel => (fills.whole (.file file) completes _ _ (parallel.enterFile file)).imp_right
    fun ⟨typed, same, still⟩ => ⟨typed, same, parallel.leaveFile still file⟩

theorem checkWith (fills : Fills place run) (file : String) {sketch full : Program}
    (completes : CompletesNodes place sketch full) :
    Follows place (CompletesNodes place) Eq (checkWith run file sketch) (checkWith run file full) :=
  fun checker checker' parallel => by
    have refused : Follows place (CompletesNodes place) Eq
        (.settle sketch (fail .origin (.circularRequire file) : Check Unit))
        (.settle full (fail .origin (.circularRequire file))) := .settle completes (.failed _ _)
    have checked : Follows place (CompletesNodes place) Eq
        ((CallTyping.runFile run file sketch).andThen id fun program _ =>
          .settle program (pure ()))
        ((CallTyping.runFile run file full).andThen id fun program _ =>
          .settle program (pure ())) :=
      (runFile fills file completes).andThen (fun _ _ typed => typed) fun _ _ typed _ =>
        .settle typed (.answered rfl)
    unfold CallTyping.checkWith
    rw [parallel.isOpen]
    split
    · exact refused checker checker' parallel
    · exact checked checker checker' parallel

end Follows

/-- The check of a completion comes to what the check of the sketch comes to. -/
theorem checkFile_completes (setup : Setup) (file : String) (checker : Checker)
    {sketch full : Program} (completes : CompletesNodes place sketch full) :
    SameVisit place (CompletesNodes place) Eq (checkFile setup file sketch checker)
      (checkFile setup file full checker) :=
  Follows.checkWith (runWithin_fills setup (checker.headroom setup + 1)) file completes checker
    checker (.refl checker)

/-! ### Two completions of one sketch -/

/-- The recorded calls with their results, without the typed bodies. -/
def Cache.outline (cache : Cache) : List (ClosureId × List (List Ty × Option Ty)) :=
  cache.entries.entries.map fun (id, entries) =>
    (id, entries.map fun entry => (entry.args, entry.result?))

theorem CompletesCache.outline {cache cache' : Cache}
    (completes : CompletesCache place cache cache') : cache'.outline = cache.outline := by
  refine map_eq_of_forall₂ (fun call call' ⟨sameId, entries⟩ => ?_) completes
  refine Prod.ext sameId (map_eq_of_forall₂ (fun entry entry' same => ?_) entries)
  rw [same.args, same.result?]

/-- Two states that are the same but for what stands in open parts. -/
structure SameOutside (place : Span) (one other : Checker) : Prop where
  heap : other.heap = one.heap
  bindings : other.bindings = one.bindings
  inlays : other.inlays = one.inlays
  loads : other.loads = one.loads
  closures : other.closures.count = one.closures.count
  calls : other.cache.outline = one.cache.outline
  modules : other.modules.keys = one.modules.keys
  sketch : ∃ sketch, Parallel place sketch one ∧ Parallel place sketch other

theorem Parallel.sameOutside {sketch one other : Checker} (parallel : Parallel place sketch one)
    (parallel' : Parallel place sketch other) : SameOutside place one other where
  heap := parallel'.heap.trans parallel.heap.symm
  bindings := parallel'.bindings.trans parallel.bindings.symm
  inlays := parallel'.inlays.trans parallel.inlays.symm
  loads := parallel'.loads.trans parallel.loads.symm
  closures := parallel'.known.length_eq.symm.trans parallel.known.length_eq
  calls := parallel'.cache.outline.trans parallel.cache.outline.symm
  modules := parallel'.modules.keys.trans parallel.modules.keys.symm
  sketch := ⟨sketch, parallel, parallel'⟩

/-- A function that is never called, and a match on a variant that has no tag but the last. -/
def sparing (body : Program) (arms : List Arm) : Program :=
  [.untyped .origin (.define "f" (.untyped .origin (.block ["p"] body))),
   .untyped .origin (.caseOf (.untyped .origin (.variant "A" []))
     (arms ++ [.mk .origin "A" [] []]))]

theorem sparing_completes (place : Span) (body args statements : Program) :
    CompletesNodes place (sparing (openBody place) (openArms place "B"))
      (sparing body [.mk .origin "B" args statements]) :=
  .cons (.mk _ _ (.define "f" (.mk _ _ (.openBlock ["p"] body))))
    (.cons (.mk _ _ (.caseOf (.refl place _)
      (.openArm .origin "B" args statements (.refl place _)))) .nil)

end CallTyping
