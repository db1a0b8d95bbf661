/-
This file is about bodies that only look at what they are given: they read names and
fields of objects, and do not create, join or call anything. Such a body changes
neither the heap nor the record of calls. When it passes for some arguments, then it
passes later on for all arguments of the same structure, and its type has the same
structure as before, if so have the names that it reads from outside: growth in
between only adds what it does not look for.
-/

import CallTyping.Proofs.Bisimilarity
import CallTyping.Proofs.HeapGrowth

namespace CallTyping

/-! ### Trees that only look -/

mutual

/-- The names that are known after a node that only looks, given those before it. -/
def Node.looks (names : List String) : Node → Option (List String)
  | .mk _ _ expr => expr.looks names

/-- The names that are known after an expression that only looks. There are none if it does
anything else, or reads any other name. -/
def Expr.looks (names : List String) : Expr → Option (List String)
  | .ident name => if name ∈ names then some names else none
  | .literal _ => some names
  | .call children => if children.length ≤ 1 then looksNodes names children else none
  | .ifThen condition body | .whileLoop condition body =>
    (condition.looks names).bind fun known => looksNodes known body
  | .dot target _ => target.looks names
  | .assertion value _ => value.looks names
  | .define name value => (value.looks names).map (name :: ·)
  | .inlay inner => inner.looks names
  | .block _ _ | .ifThenElse _ _ _ | .caseOf _ _ | .update _ _ | .object _ | .variant _ _
  | .require _ => none

/-- The names that are known after nodes that only look. -/
def looksNodes (names : List String) : List Node → Option (List String)
  | [] => some names
  | node :: rest => (node.looks names).bind fun known => looksNodes known rest

end

/-- The body of a block only looks at its arguments and at what these names stand for outside. -/
def Closure.looks (outside : List String) (closure : Closure) : Bool :=
  (looksNodes (closure.params.reverse ++ outside) closure.body).isSome

/-! ### Names in the innermost frame -/

namespace Bindings

/-- The innermost frame of the active stack exists. -/
def Opened (bindings : Bindings) : Prop := bindings.scopes.innermost.index < bindings.frames.size

variable {bindings : Bindings}

theorem opened_bind (opened : bindings.Opened) (name : String) (binding : Binding) :
    (bindings.bind name binding).Opened := by
  unfold Opened bind at *
  rw [Arena.size_set]
  exact opened

theorem opened_enter (bindings : Bindings) : bindings.enter.Opened := by
  unfold Opened enter
  rw [Arena.size_allocate]
  exact Nat.lt_succ_self _

theorem frame_bind (opened : bindings.Opened) (name : String) (binding : Binding) (id : FrameId) :
    (bindings.bind name binding).frame id =
      if id = bindings.scopes.innermost then (bindings.frame id).insert name binding
      else bindings.frame id := by
  unfold frame bind
  by_cases same : id = bindings.scopes.innermost
  · rw [if_pos same, same, Arena.get?_set_self _ _ _ opened]
    rfl
  · have different : id.index ≠ bindings.scopes.innermost.index := fun equal => same (by
      cases id
      exact congrArg FrameId.mk equal)
    rw [if_neg same, Arena.get?_set_other _ _ _ _ different]

theorem frame_enter (bindings : Bindings) (id : FrameId) :
    bindings.enter.frame id = bindings.frame id := by
  unfold frame enter
  rcases Nat.lt_trichotomy id.index bindings.frames.size with inside | last | beyond
  · rw [Arena.get?_allocate_other _ _ _ inside]
  · rw [Arena.get?_outside _ _ (Nat.le_of_eq last.symm), last]
    exact congrArg (Option.getD · .empty) (Arena.get?_allocate_self bindings.frames .empty)
  · rw [Arena.get?_outside _ _ (Nat.le_of_lt beyond), Arena.get?_outside]
    rw [Arena.size_allocate]
    exact beyond

/-- A new scope hides nothing. -/
theorem lookup_enter (bindings : Bindings) (file name : String) :
    bindings.enter.lookup file name = bindings.lookup file name := by
  have empty : bindings.frame ⟨bindings.frames.size⟩ = .empty := by
    rw [frame, Arena.get?_outside _ _ (Nat.le_refl _)]
    rfl
  have holds : bindings.enter.holder? name = bindings.holder? name := by
    simp only [holder?, frame_enter]
    refine List.find?_cons_of_neg ?_
    show ¬(bindings.frame ⟨bindings.frames.size⟩).contains name = true
    rw [empty]
    exact Bool.false_ne_true
  simp only [lookup, holds, frame_enter]
  rfl

/-- A name that is bound is found, whatever it stood for before, and other names are not touched. -/
theorem lookup_bind (opened : bindings.Opened) (file name other : String) (binding : Binding) :
    (bindings.bind name binding).lookup file other =
      if other = name then some binding.ty else bindings.lookup file other := by
  by_cases same : other = name
  · have inner := frame_bind opened name binding bindings.scopes.innermost
    rw [if_pos rfl] at inner
    have holds : (bindings.bind name binding).holder? name =
        some bindings.scopes.innermost := by
      unfold holder?
      refine List.find?_cons_of_pos ?_
      show ((bindings.bind name binding).frame bindings.scopes.innermost).contains name = true
      rw [inner, OrderedMap.contains, OrderedMap.get?_insert_self]
      rfl
    rw [if_pos same, same, lookup, holds]
    dsimp only
    rw [inner, OrderedMap.get?_insert_self]
    rfl
  · have untouched (id : FrameId) : ((bindings.bind name binding).frame id).get? other =
        (bindings.frame id).get? other := by
      rw [frame_bind opened]
      split
      · exact OrderedMap.get?_insert_other _ _ _ _ same
      · rfl
    have holds : (bindings.bind name binding).holder? other = bindings.holder? other := by
      unfold holder?
      refine congrArg (List.find? · bindings.scopes.frames) ?_
      funext id
      rw [OrderedMap.contains, untouched]
      rfl
    rw [if_neg same, lookup, holds, lookup]
    split
    next id _ => rw [untouched]
    next => rfl

end Bindings

/-! ### Types of the same structure -/

namespace Heap

variable {heap earlier : Heap} {left right : Ty}

theorem Indistinct.kind (same : heap.Indistinct left right) : left.kind = right.kind := by
  have surface := heap.indistinct_bisimulation.surface same
  cases left <;> cases right <;> first | rfl | cases surface

/-- A field that an object had before is also in every type that has its structure now. -/
theorem Indistinct.field (grown : earlier.Grows heap) {id : ObjectId} {name : String} {ty : Ty}
    (same : heap.Indistinct (.object id) right) (held : earlier.field? id name = some ty) :
    ∃ other part, right = .object other ∧ heap.field? other name = some part ∧
      heap.Indistinct ty part := by
  have kinds := same.kind
  cases right with
  | object other =>
    have parts := heap.indistinct_bisimulation.fields same name
    rw [show (heap.fields id).get? name = some ty from grown.field? held] at parts
    generalize found : (heap.fields other).get? name = answer at parts
    cases parts with
    | some alike => exact ⟨other, _, rfl, found, alike⟩
  | _ => cases kinds

theorem sameArguments_iff (heap : Heap) (lefts rights : List Ty) :
    heap.sameArguments lefts rights = true ↔ List.Forall₂ heap.Indistinct lefts rights := by
  induction lefts generalizing rights with
  | nil => cases rights <;> simp [sameArguments]
  | cons left lefts inductionHypothesis =>
    cases rights with
    | nil => simp [sameArguments]
    | cons right rights =>
      rw [sameArguments, Bool.and_eq_true, same_iff, inductionHypothesis, List.forall₂_cons]

end Heap

/-! ### States that look alike -/

/-- Every known name stands in the second state for a type that has now the structure of the one
that it stands for in the first. -/
structure Echoes (heap : Heap) (names : List String) (first second : Checker) : Prop where
  now : second.heap = heap
  grown : first.heap.Grows heap
  opened : first.bindings.Opened
  opened' : second.bindings.Opened
  known : ∀ name ∈ names, ∃ ty other, first.lookup name = some ty ∧
    second.lookup name = some other ∧ heap.Indistinct ty other

theorem Echoes.bind {heap : Heap} {names : List String} {first second : Checker}
    (echoes : Echoes heap names first second) (name : String) {ty other : Ty}
    (same : heap.Indistinct ty other) (span span' : Span) :
    Echoes heap (name :: names)
      { first with bindings := first.bindings.bind name ⟨ty, span⟩ }
      { second with bindings := second.bindings.bind name ⟨other, span'⟩ } where
  now := echoes.now
  grown := echoes.grown
  opened := Bindings.opened_bind echoes.opened _ _
  opened' := Bindings.opened_bind echoes.opened' _ _
  known found member := by
    unfold Checker.lookup
    dsimp only
    rw [Bindings.lookup_bind echoes.opened, Bindings.lookup_bind echoes.opened']
    by_cases equal : found = name
    · rw [if_pos equal, if_pos equal]
      exact ⟨ty, other, rfl, rfl, same⟩
    · rw [if_neg equal, if_neg equal]
      exact echoes.known found ((List.mem_cons.mp member).resolve_left equal)

/-- What a name stands for where a block was written. -/
def Checker.outside (checker : Checker) (closure : Closure) (name : String) : Option Ty :=
  (checker.bindings.withScopes closure.scopes).lookup closure.file name

/-- Parameters are bound to types of the same structure. -/
theorem Echoes.bindAll {heap : Heap} {names : List String} {first second : Checker}
    (echoes : Echoes heap names first second) (span : Span) (params : List String)
    {args args' : List Ty} (alike : List.Forall₂ heap.Indistinct args args') :
    Echoes heap ((params.take args.length).reverse ++ names)
      { first with
        bindings := (params.zip args).foldl
          (fun bindings (name, ty) => bindings.bind name ⟨ty, span⟩) first.bindings }
      { second with
        bindings := (params.zip args').foldl
          (fun bindings (name, ty) => bindings.bind name ⟨ty, span⟩) second.bindings } := by
  induction alike generalizing params names first second with
  | nil => simpa using echoes
  | @cons ty ty' args args' same alike inductionHypothesis =>
    cases params with
    | nil => exact echoes
    | cons name params =>
      rw [List.length_cons, List.take_succ_cons, List.reverse_cons, List.append_assoc]
      exact inductionHypothesis (echoes.bind name same span span) params

/-- Bodies of one block begin alike if their arguments have the same structure, and so have the
types that the names from outside stand for. -/
theorem Echoes.beginBody {first second : Checker} {closure : Closure} {args args' : List Ty}
    {outside : List String} (grown : first.heap.Grows second.heap)
    (known : ∀ name ∈ outside, ∃ before now, first.outside closure name = some before ∧
      second.outside closure name = some now ∧ second.heap.Indistinct before now)
    (alike : List.Forall₂ second.heap.Indistinct args args')
    (saturated : args.length = closure.params.length) (id : ClosureId) :
    Echoes second.heap (closure.params.reverse ++ outside) (first.beginBody id closure args)
      (second.beginBody id closure args') := by
  have entered : Echoes second.heap outside
      { first.beginBody id closure args with
        bindings := (first.bindings.withScopes closure.scopes).enter }
      { second.beginBody id closure args' with
        bindings := (second.bindings.withScopes closure.scopes).enter } := by
    refine ⟨rfl, grown, Bindings.opened_enter _, Bindings.opened_enter _, fun name member => ?_⟩
    obtain ⟨before, now, stood, stands, same⟩ := known name member
    exact ⟨before, now, (Bindings.lookup_enter _ _ _).trans stood,
      (Bindings.lookup_enter _ _ _).trans stands, same⟩
  have bound := entered.bindAll closure.span closure.params alike
  rw [saturated, List.take_length] at bound
  exact bound

/-- Neither the heap nor the record of calls has changed. -/
structure Still (before after : Checker) : Prop where
  heap : after.heap = before.heap
  cache : after.cache = before.cache

namespace Still

theorem refl (checker : Checker) : Still checker checker := ⟨rfl, rfl⟩

theorem trans {first second third : Checker} (left : Still first second)
    (right : Still second third) : Still first third :=
  ⟨right.heap.trans left.heap, right.cache.trans left.cache⟩

end Still

/-! ### Passes that go alike -/

/-- If the first pass answers, then it leaves the heap and the record as they are; and from every
state that echoes the one it came from, the second pass does the same and gives a like answer. -/
def Mimics {β δ : Type} (heap : Heap) (names later : List String)
    (first : Checker → Except Stop β × Checker) (second : Checker → Except Stop δ × Checker)
    (good : β → δ → Prop) : Prop :=
  ∀ checker other, Echoes heap names checker other →
    ∀ found after, first checker = (.ok found, after) →
      ∃ found' after', second other = (.ok found', after') ∧ good found found' ∧
        Echoes heap later after after' ∧ Still checker after ∧ Still other after'

namespace Mimics

variable {α β γ δ ε ζ η θ : Type} {heap : Heap} {names middle later : List String}

theorem pure {answer : β} {answer' : δ} {good : β → δ → Prop} (fine : good answer answer') :
    Mimics heap names names (Pure.pure answer : Check β).outcome
      (Pure.pure answer' : Check δ).outcome good := by
  rintro checker other echoes _ _ ⟨⟩
  exact ⟨answer', other, rfl, fine, echoes, .refl _, .refl _⟩

theorem bind {step : Check β} {step' : Check δ} {next : β → Check ε} {next' : δ → Check ζ}
    {good : β → δ → Prop} {goal : ε → ζ → Prop}
    (first : Mimics heap names middle step.outcome step'.outcome good)
    (rest : ∀ found found', good found found' →
      Mimics heap middle later (next found).outcome (next' found').outcome goal) :
    Mimics heap names later (step >>= next).outcome (step' >>= next').outcome goal := by
  intro checker other echoes answer last ended
  rcases result : step.outcome checker with ⟨stop | found, after⟩
  · rw [Check.outcome_bind_error result] at ended
    cases ended
  · rw [Check.outcome_bind_ok result] at ended
    obtain ⟨found', after', done, fine, further, still, still'⟩ :=
      first checker other echoes found after result
    obtain ⟨answer', last', done', fine', end', last, last'⟩ :=
      rest found found' fine after after' further answer _ ended
    exact ⟨answer', _, (Check.outcome_bind_ok done).trans done', fine', end', still.trans last,
      still'.trans last'⟩

theorem andThen {visit : Visit α β} {visit' : Visit γ δ} {around : α → η} {around' : γ → θ}
    {next : α → β → Visit η ε} {next' : γ → δ → Visit θ ζ} {good : β → δ → Prop}
    {goal : ε → ζ → Prop} (first : Mimics heap names middle visit.outcome visit'.outcome good)
    (rest : ∀ piece piece' found found', good found found' →
      Mimics heap middle later (next piece found).outcome (next' piece' found').outcome goal) :
    Mimics heap names later (visit.andThen around next).outcome
      (visit'.andThen around' next').outcome goal := by
  intro checker other echoes answer last ended
  rcases result : visit checker with ⟨⟨piece, stop | found⟩, after⟩
  · rw [Visit.outcome, Visit.andThen_error result] at ended
    cases ended
  · rw [Visit.outcome, Visit.andThen_ok result] at ended
    obtain ⟨found', after', done, fine, further, still, still'⟩ :=
      first checker other echoes found after (by rw [Visit.outcome, result])
    rcases result' : visit' other with ⟨⟨piece', answered⟩, reached⟩
    rw [Visit.outcome, result'] at done
    cases done
    obtain ⟨answer', last', done', fine', end', last, last'⟩ :=
      rest piece piece' found found' fine after reached further answer _ ended
    refine ⟨answer', _, ?_, fine', end', still.trans last, still'.trans last'⟩
    rw [Visit.outcome, Visit.andThen_ok result']
    exact done'

/-! ### Rules -/

theorem record (event event' : Event) :
    Mimics heap names names (CallTyping.record event).outcome (CallTyping.record event').outcome
      fun _ _ => True := by
  rintro checker other echoes _ _ ⟨⟩
  exact ⟨⟨⟩, _, rfl, trivial,
    ⟨echoes.now, echoes.grown, echoes.opened, echoes.opened', echoes.known⟩, ⟨rfl, rfl⟩, ⟨rfl, rfl⟩⟩

theorem noteInlay (span : Span) (ty ty' : Ty) :
    Mimics heap names names (CallTyping.noteInlay span ty).outcome
      (CallTyping.noteInlay span ty').outcome heap.Indistinct := by
  rintro checker other echoes _ _ ⟨⟩
  exact ⟨.unit, _, rfl, fun _ => rfl,
    ⟨echoes.now, echoes.grown, echoes.opened, echoes.opened', echoes.known⟩, ⟨rfl, rfl⟩, ⟨rfl, rfl⟩⟩

theorem typeOfName {name : String} (member : name ∈ names) (span : Span) :
    Mimics heap names names (CallTyping.typeOfName span name).outcome
      (CallTyping.typeOfName span name).outcome heap.Indistinct := by
  intro checker other echoes found after done
  obtain ⟨ty, ty', known, known', same⟩ := echoes.known name member
  rw [CallTyping.typeOfName, Check.outcome_bind_ok (Check.outcome_get _), known] at done
  cases done
  refine ⟨ty', other, ?_, same, echoes, .refl _, .refl _⟩
  rw [CallTyping.typeOfName, Check.outcome_bind_ok (Check.outcome_get _), known']
  rfl

theorem expectBool {ty ty' : Ty} (same : heap.Indistinct ty ty') (span span' : Span) :
    Mimics heap names names (CallTyping.expectBool span ty).outcome
      (CallTyping.expectBool span' ty').outcome fun _ _ => True := by
  unfold CallTyping.expectBool
  rw [Ty.isBool, Ty.isBool, ← same.kind]
  split
  · exact pure trivial
  · rintro checker other echoes _ _ ⟨⟩

theorem expectKind {ty ty' : Ty} (same : heap.Indistinct ty ty') (span span' : Span)
    (expected : Kind) :
    Mimics heap names names (CallTyping.expectKind span expected ty).outcome
      (CallTyping.expectKind span' expected ty').outcome fun _ _ => True := by
  unfold CallTyping.expectKind
  rw [← same.kind]
  split
  · exact pure trivial
  · rintro checker other echoes _ _ ⟨⟩

theorem defineName (name : String) {ty ty' : Ty} (same : heap.Indistinct ty ty') (span : Span) :
    Mimics heap names (name :: names) (CallTyping.defineName false span name ty).outcome
      (CallTyping.defineName false span name ty').outcome heap.Indistinct := by
  rintro checker other echoes _ _ ⟨⟩
  exact ⟨.unit, _, rfl, fun _ => rfl, echoes.bind name same span span, ⟨rfl, rfl⟩, ⟨rfl, rfl⟩⟩

theorem typeOfField {ty ty' : Ty} (same : heap.Indistinct ty ty') (span span' : Span)
    (field : String) :
    Mimics heap names names (CallTyping.typeOfField span ty field).outcome
      (CallTyping.typeOfField span' ty' field).outcome heap.Indistinct := by
  intro checker other echoes found after done
  cases ty with
  | object id =>
    rw [CallTyping.typeOfField, expectObject, pure_bind,
      Check.outcome_bind_ok (Check.outcome_get _)] at done
    split at done
    next part held =>
      cases done
      obtain ⟨id', part', rfl, held', alike⟩ := same.field echoes.grown held
      refine ⟨part', other, ?_, alike, echoes, .refl _, .refl _⟩
      rw [CallTyping.typeOfField, expectObject, pure_bind,
        Check.outcome_bind_ok (Check.outcome_get _), echoes.now, held']
      rfl
    next => cases done
  | _ => cases done

theorem annotatedField {ty ty' : Ty} (same : heap.Indistinct ty ty') (span span' : Span)
    (field : String) :
    Mimics heap names names (CallTyping.annotatedField span ty field).outcome
      (CallTyping.annotatedField span' ty' field).outcome heap.Indistinct := by
  intro checker other echoes found after done
  cases ty with
  | object id =>
    rw [CallTyping.annotatedField, Check.outcome_bind_ok (Check.outcome_get _)] at done
    split at done
    next part held =>
      cases done
      obtain ⟨id', part', rfl, held', alike⟩ := same.field echoes.grown held
      refine ⟨part', other, ?_, alike, echoes, .refl _, .refl _⟩
      rw [CallTyping.annotatedField, Check.outcome_bind_ok (Check.outcome_get _), echoes.now, held']
      rfl
    next => cases done
  | _ => cases done

mutual

theorem assertType (annotations : Annotations) (span span' : Span) {ty ty' : Ty}
    (same : heap.Indistinct ty ty') : (described : Node) →
      Mimics heap names names (CallTyping.assertType annotations span ty described).outcome
        (CallTyping.assertType annotations span' ty' described).outcome fun _ _ => True
  | .mk place slot expr => by
    cases expr with
    | object fields =>
      simp only [CallTyping.assertType]
      refine bind (expectKind same span span' .object) fun _ _ _ => ?_
      exact assertFields annotations span span' same fields
    | ident name =>
      simp only [CallTyping.assertType]
      split
      · exact expectKind same span span' _
      · rintro checker other echoes _ _ ⟨⟩
    | _ =>
      rw [CallTyping.assertType]
      · rintro checker other echoes _ _ ⟨⟩
      all_goals simp

theorem assertFields (annotations : Annotations) (span span' : Span) {ty ty' : Ty}
    (same : heap.Indistinct ty ty') : (fields : List Field) →
      Mimics heap names names (CallTyping.assertFields annotations span ty fields).outcome
        (CallTyping.assertFields annotations span' ty' fields).outcome fun _ _ => True
  | [] => by
    rw [CallTyping.assertFields, CallTyping.assertFields]
    exact pure trivial
  | .mk name annotation :: rest => by
    rw [CallTyping.assertFields, CallTyping.assertFields]
    refine bind (annotatedField same span span' name) fun found found' alike => ?_
    refine bind (assertType annotations span span' alike annotation) fun _ _ _ => ?_
    exact assertFields annotations span span' same rest

end

/-! ### Trees -/

variable {setup : Setup} {run run' : Runner}

mutual

theorem visitNode : (node : Node) → {names later : List String} →
    node.looks names = some later →
      Mimics heap names later (CallTyping.visitNode setup run false node).outcome
        (CallTyping.visitNode setup run' false node).outcome heap.Indistinct
  | .mk span slot expr, names, later, looks => by
    unfold CallTyping.visitNode
    refine andThen (record _ _) fun _ _ _ _ _ => ?_
    cases slot with
    | some ty => rintro checker other echoes _ _ ⟨⟩
    | none => exact visitExpr span expr looks

theorem visitExpr (span : Span) : (expr : Expr) → {names later : List String} →
    expr.looks names = some later →
      Mimics heap names later (CallTyping.visitExpr setup run false span expr).outcome
        (CallTyping.visitExpr setup run' false span expr).outcome heap.Indistinct
  | .ident name, names, later, looks => by
    rw [Expr.looks] at looks
    split at looks
    next member =>
      cases looks
      rw [CallTyping.visitExpr, CallTyping.visitExpr]
      exact typeOfName member span
    next => cases looks
  | .literal value, names, later, looks => by
    cases looks
    rw [CallTyping.visitExpr, CallTyping.visitExpr]
    exact pure fun _ => rfl
  | .call children, names, later, looks => by
    rw [Expr.looks] at looks
    split at looks
    next few =>
      rw [CallTyping.visitExpr, CallTyping.visitExpr]
      refine andThen (visitNodes children looks) fun _ _ types types' ⟨alike, lengths⟩ => ?_
      match types, types', alike with
      | [], _, .nil => exact pure fun _ => rfl
      | [ty], _, .cons same .nil => exact pure same
      | _ :: _ :: _, _, _ =>
        rw [List.length_cons, List.length_cons] at lengths
        omega
    next => cases looks
  | .ifThen condition body, names, later, looks => by
    obtain ⟨middle, first, second⟩ := Option.bind_eq_some_iff.mp looks
    rw [CallTyping.visitExpr, CallTyping.visitExpr]
    refine andThen (visitNode condition first) fun _ _ ty ty' same => ?_
    refine andThen (visitNodes body second) fun _ _ _ _ _ => ?_
    exact bind (expectBool same _ _) fun _ _ _ => pure fun _ => rfl
  | .whileLoop condition body, names, later, looks => by
    obtain ⟨middle, first, second⟩ := Option.bind_eq_some_iff.mp looks
    rw [CallTyping.visitExpr, CallTyping.visitExpr]
    refine andThen (visitNode condition first) fun _ _ _ _ _ => ?_
    exact andThen (visitNodes body second) fun _ _ _ _ _ => pure fun _ => rfl
  | .dot target field, names, later, looks => by
    rw [CallTyping.visitExpr, CallTyping.visitExpr]
    exact andThen (visitNode target looks) fun _ _ _ _ same => typeOfField same _ _ field
  | .assertion value annotation, names, later, looks => by
    rw [CallTyping.visitExpr, CallTyping.visitExpr]
    refine andThen (visitNode value looks) fun _ _ _ _ same => ?_
    exact bind (assertType setup.annotations _ _ same annotation) fun _ _ _ => pure same
  | .define name value, names, later, looks => by
    obtain ⟨middle, first, rfl⟩ := Option.map_eq_some_iff.mp looks
    rw [CallTyping.visitExpr, CallTyping.visitExpr]
    exact andThen (visitNode value first) fun _ _ _ _ same => defineName name same span
  | .inlay inner, names, later, looks => by
    rw [CallTyping.visitExpr, CallTyping.visitExpr]
    exact andThen (visitNode inner looks) fun _ _ ty ty' _ => noteInlay span ty ty'

theorem visitNodes : (nodes : List Node) → {names later : List String} →
    looksNodes names nodes = some later →
      Mimics heap names later (CallTyping.visitNodes setup run false nodes).outcome
        (CallTyping.visitNodes setup run' false nodes).outcome
          fun types types' => List.Forall₂ heap.Indistinct types types' ∧
            types.length = nodes.length
  | [], names, later, looks => by
    cases looks
    rw [CallTyping.visitNodes, CallTyping.visitNodes]
    exact pure ⟨.nil, rfl⟩
  | node :: rest, names, later, looks => by
    obtain ⟨middle, first, second⟩ := Option.bind_eq_some_iff.mp looks
    rw [CallTyping.visitNodes, CallTyping.visitNodes]
    refine andThen (visitNode node first) fun _ _ _ _ same => ?_
    exact andThen (visitNodes rest second) fun _ _ _ _ ⟨alike, lengths⟩ =>
      pure ⟨.cons same alike, congrArg Nat.succ lengths⟩

end

end Mimics

end CallTyping
