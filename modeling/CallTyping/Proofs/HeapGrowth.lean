/-
This file proves that the heap only grows. Objects and variants keep their fields
and tags, in their order and with the very same types, and get new ones at the end.
A field is written only where there was none, since the join of an old and a new
type is the old one; and a variant is changed only by a union that it starts. So no
type that a check gave out changes its parts afterwards, and an update leaves all
names bound to the types that they had.
-/

import CallTyping.Proofs.Moment
import CallTyping.Proofs.Conduct

namespace CallTyping

/-- Every object and variant has the parts it had before, and new ones only after them. -/
structure Heap.Grows (before after : Heap) : Prop where
  objects : before.objects.size ≤ after.objects.size
  variants : before.variants.size ≤ after.variants.size
  fields (id : ObjectId) : (before.fields id).entries <+: (after.fields id).entries
  tags (id : VariantId) : (before.tags id).entries <+: (after.tags id).entries

namespace Heap.Grows

theorem refl (heap : Heap) : heap.Grows heap :=
  ⟨Nat.le_refl _, Nat.le_refl _, fun _ => List.prefix_refl _, fun _ => List.prefix_refl _⟩

theorem trans {first second third : Heap} (left : first.Grows second)
    (right : second.Grows third) : first.Grows third :=
  ⟨Nat.le_trans left.objects right.objects, Nat.le_trans left.variants right.variants,
    fun id => (left.fields id).trans (right.fields id),
    fun id => (left.tags id).trans (right.tags id)⟩

variable {before after : Heap}

/-- What a map holds is held by every map that begins with it. -/
theorem get?_of_longer {α : Type} {first second : OrderedMap String α}
    (longer : first.entries <+: second.entries) {name : String} {part : α}
    (held : first.get? name = some part) : second.get? name = some part :=
  (second.mem_entries_iff name part).mp
    (longer.subset ((first.mem_entries_iff name part).mpr held))

theorem field? (grown : before.Grows after) {id : ObjectId} {name : String} {ty : Ty}
    (held : before.field? id name = some ty) : after.field? id name = some ty :=
  get?_of_longer (grown.fields id) held

theorem tag? (grown : before.Grows after) {id : VariantId} {name : String} {args : List Ty}
    (held : before.tag? id name = some args) : after.tag? id name = some args :=
  get?_of_longer (grown.tags id) held

theorem tagNames (grown : before.Grows after) (id : VariantId) :
    (before.tags id).keys <+: (after.tags id).keys :=
  (grown.tags id).map Prod.fst

end Heap.Grows

/-! ### Single changes of the heap -/

section

variable {α : Type}

/-- The parts in a cell; a cell that does not exist has none. -/
def Arena.parts (arena : Arena (OrderedMap String α)) (index : Nat) : OrderedMap String α :=
  (arena.get? index).getD .empty

variable (arena : Arena (OrderedMap String α)) (parts : OrderedMap String α)

theorem parts_allocate (index : Nat) :
    (arena.parts index).entries <+: ((arena.allocate parts).2.parts index).entries := by
  unfold Arena.parts
  by_cases inside : index < arena.size
  · simp only [Arena.get?_allocate_other _ _ _ inside, List.prefix_rfl]
  · rw [Arena.get?_outside arena _ (Nat.le_of_not_lt inside)]
    exact List.nil_prefix

theorem parts_set (index other : Nat) (more : (arena.parts index).entries <+: parts.entries) :
    (arena.parts other).entries <+: ((arena.set index parts).parts other).entries := by
  by_cases same : other = index
  · subst same
    by_cases inside : other < arena.size
    · unfold Arena.parts at more ⊢
      rw [Arena.get?_set_self _ _ _ inside]
      exact more
    · simp only [Arena.set_outside _ _ _ (Nat.le_of_not_lt inside), List.prefix_rfl]
  · unfold Arena.parts
    simp only [Arena.get?_set_other _ _ _ _ same, List.prefix_rfl]

end

namespace Heap

theorem newObject_grows (heap : Heap) (fields : Fields) : heap.Grows (heap.newObject fields).2 where
  objects := Nat.le.intro (Arena.size_allocate heap.objects fields).symm
  variants := Nat.le_refl _
  fields id := parts_allocate heap.objects fields id.index
  tags _ := List.prefix_refl _

theorem newVariant_grows (heap : Heap) (tags : Tags) : heap.Grows (heap.newVariant tags).2 where
  objects := Nat.le_refl _
  variants := Nat.le.intro (Arena.size_allocate heap.variants tags).symm
  fields _ := List.prefix_refl _
  tags id := parts_allocate heap.variants tags id.index

/-- A new field stands after all others. -/
theorem setField_grows (heap : Heap) (id : ObjectId) (name : String) (ty : Ty)
    (new : heap.field? id name = none) : heap.Grows (heap.setField id name ty) where
  objects := Nat.le_of_eq (Arena.size_set heap.objects _ _).symm
  variants := Nat.le_refl _
  fields other := by
    refine parts_set heap.objects _ id.index other.index ?_
    rw [OrderedMap.entries_insert_new _ _ _ new]
    exact List.prefix_append _ _
  tags _ := List.prefix_refl _

/-- Tags in the place of others that they start with. -/
theorem setTags_grows (heap : Heap) (id : VariantId) (tags : Tags)
    (more : (heap.tags id).entries <+: tags.entries) : heap.Grows (heap.setTags id tags) where
  objects := Nat.le_refl _
  variants := Nat.le_of_eq (Arena.size_set heap.variants _ _).symm
  fields _ := List.prefix_refl _
  tags other := parts_set heap.variants tags id.index other.index more

theorem entries_union (known incoming : Tags) :
    known.entries <+: (union known incoming).entries := by
  rw [entries_union_eq]
  exact List.prefix_append _ _

theorem join_grows {heap grown : Heap} {left right ty : Ty}
    (joined : heap.join left right = some (ty, grown)) : heap.Grows grown := by
  rcases join_cases joined with ⟨-, rfl | ⟨known, incoming, -, -, rfl⟩⟩
  · exact .refl _
  · exact setTags_grows _ known _ (entries_union _ _)

end Heap

/-! ### Passes -/

theorem grows_flow (setup : Setup) {run : Runner}
    (grows : ∀ occasion program (checker : Checker),
      checker.heap.Grows (run occasion program checker).2.heap) :
    Flow (fun before _ after => before.heap.Grows after.heap) setup run where
  still checker := .refl checker.heap
  trans := .trans
  fault checker _ _ _ := .refl checker.heap
  record checker _ := .refl checker.heap
  inlay checker _ _ := .refl checker.heap
  bind checker _ _ _ := .refl checker.heap
  define checker _ _ _ := .refl checker.heap
  block checker _ _ _ := .refl checker.heap
  join _ _ _ _ _ joined := Heap.join_grows joined
  object checker fields := checker.heap.newObject_grows fields
  variant checker tags := checker.heap.newVariant_grows tags
  addField checker id name ty new := checker.heap.setField_grows id name ty new
  scope grown := grown
  call {checker _ id args _} ends := by
    cases ends with
    | known | running | tooDeep | unknown => exact .refl checker.heap
    | typed closure body types after _ _ _ ran | failed closure body stop after _ _ _ ran =>
      have grown := grows (.body id args) closure.body (checker.beginBody id closure args)
      rw [ran] at grown
      exact grown
  load {checker _ file _} _ _ ends := by
    cases ends with
    | missing => exact .refl checker.heap
    | checked program typed types after _ ran | failed program typed stop after _ ran =>
      have grown := grows (.file file) program (checker.beginFile file)
      rw [ran] at grown
      exact grown

theorem runWithin_grows (setup : Setup) (levels : Nat) (occasion : Occasion) (program : Program)
    (checker : Checker) :
    checker.heap.Grows (runWithin setup levels occasion program checker).2.heap := by
  induction levels generalizing occasion program checker with
  | zero => exact .refl checker.heap
  | succ levels inductionHypothesis =>
    exact (grows_flow setup inductionHypothesis).runStatements occasion program checker

/-! ### Updates -/

/-- A visit after which every name is bound as before. -/
def KeepsBindings {α β : Type} (visit : Visit α β) : Prop :=
  ∀ checker, (visit checker).2.bindings = checker.bindings

namespace KeepsBindings

variable {α β γ δ : Type}

theorem andThen {visit : Visit α β} {around : α → γ} {next : α → β → Visit γ δ}
    (first : KeepsBindings visit) (rest : ∀ piece found, KeepsBindings (next piece found)) :
    KeepsBindings (visit.andThen around next) := by
  intro checker
  have start := first checker
  rcases result : visit checker with ⟨⟨piece, stop | found⟩, after⟩
  · rw [result] at start
    rw [Visit.andThen_error result]
    exact start
  · rw [result] at start
    rw [Visit.andThen_ok result]
    exact (rest piece found after).trans start

theorem assign {node : Node} {step : Check Ty} (keeps : KeepsBindings (.settle node step)) :
    KeepsBindings (Visit.assign node step) := by
  refine keeps.andThen fun node ty => ?_
  split
  · exact fun _ => rfl
  · exact fun _ => rfl

theorem typeOfName (tree : α) (span : Span) (name : String) :
    KeepsBindings (.settle tree (typeOfName span name)) := by
  intro checker
  rw [Visit.settle_eq, CallTyping.typeOfName, Check.outcome_bind, Check.outcome_get]
  dsimp only
  split <;> rfl

theorem joinTypes (tree : α) (reason : String) (span : Span) (expected found : Ty) :
    KeepsBindings (.settle tree (joinTypes reason span expected found)) := by
  intro checker
  rw [Visit.settle_eq, CallTyping.joinTypes, Check.outcome_bind, Check.outcome_get]
  dsimp only
  split <;> rfl

theorem expectObject (tree : α) (span : Span) (ty : Ty) :
    KeepsBindings (.settle tree (expectObject span ty)) := by
  cases ty <;> exact fun _ => rfl

theorem updateVariable (node : Node) (span valueSpan : Span) (name : String) (new : Ty) :
    KeepsBindings (.settle node (updateVariable span valueSpan name new)) := by
  intro checker
  rw [Visit.settle_eq, Check.outcome_updateVariable, ← Visit.settle_eq node, Visit.settle_bind]
  exact (typeOfName node span name).andThen (fun node old => joinTypes node _ _ old new) checker

theorem updateField (node : Node) (objectSpan valueSpan : Span) (ty : Ty) (field : String)
    (new : Ty) :
    KeepsBindings (.settle node (updateField objectSpan valueSpan ty field new)) := by
  intro checker
  rw [Visit.settle_eq, Check.outcome_updateField, ← Visit.settle_eq node, Visit.settle_bind]
  refine (expectObject node objectSpan ty).andThen (fun node object => ?_) checker
  split
  next old _ => exact joinTypes node _ _ old new
  next => exact fun _ => rfl

theorem visitIdent (setup : Setup) (run : Runner) (toplevel : Bool) :
    (node : Node) → node.isIdent = true → KeepsBindings (visitNode setup run toplevel node)
  | .mk span slot (.ident name), _ => by
    unfold visitNode
    refine KeepsBindings.andThen (fun _ => rfl) fun _ _ => ?_
    cases slot with
    | some ty => exact fun _ => rfl
    | none =>
      simp only [visitExpr]
      exact typeOfName (Expr.ident name) span name

/-- The assignment of an update leaves all names bound to the types that they had. -/
theorem visitTarget (setup : Setup) (run : Runner) (valueSpan : Span) (new : Ty) (target : Node) :
    KeepsBindings (visitTarget setup run valueSpan new target) := by
  obtain ⟨span, slot, expr⟩ := target
  cases expr with
  | ident name =>
    simp only [CallTyping.visitTarget]
    exact (updateVariable _ span valueSpan name new).assign
  | dot base field =>
    simp only [CallTyping.visitTarget]
    split
    next named =>
      exact (visitIdent setup run false base named).andThen fun base ty =>
        (updateField _ base.span valueSpan ty field new).assign
    next => exact fun _ => rfl
  | _ => exact fun _ => rfl

end KeepsBindings

/-! ### Checks -/

/-- No check takes parts from an object or a variant, moves them or gives them other types. The
assignment of an update, however it came about, only grows the heap as well, and leaves every
name bound as before. -/
theorem check_grows_heap (request : Request) (checker : Checker) :
    checker.heap.Grows (checker.checked request).heap ∧
      ∀ levels valueSpan new target before,
        let assigned :=
          (visitTarget request.setup (runWithin request.setup levels) valueSpan new target before).2
        before.heap.Grows assigned.heap ∧ assigned.bindings = before.bindings := by
  refine ⟨?_, fun levels valueSpan new target before => ⟨?_, ?_⟩⟩
  · unfold Checker.checked checkFile
    cases opened : checker.isOpen request.file with
    | true =>
      rw [checkWith_open _ _ _ _ opened]
      exact .refl checker.heap
    | false =>
      rw [checkWith_closed _ _ _ _ opened]
      exact runWithin_grows request.setup _ (.file request.file) request.program
        (checker.enterFile request.file)
  · have kept := grows_flow request.setup (runWithin_grows request.setup levels)
    exact (kept.sound.visitTarget valueSpan new before trivial target).flow
  · exact KeepsBindings.visitTarget request.setup _ valueSpan new target before

end CallTyping
