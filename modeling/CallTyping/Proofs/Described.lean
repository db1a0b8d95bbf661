/-
This file says when a type is as an annotation describes it, and proves that
assertions decide exactly this. An assertion looks at the type and at the heap and
changes nothing, neither the state nor the annotation. A type stays as described:
its kind is its own, and objects keep the fields that they have.
-/

import CallTyping.Proofs.HeapGrowth

namespace CallTyping

/-- A type is as an annotation describes it. A name describes the types of one kind, and an object
those objects that have all its fields, with types that are as described. Nothing else describes a
type. -/
inductive Describes (annotations : Annotations) (heap : Heap) : Node → Ty → Prop where
  | kind {place : Span} {slot : Option Ty} {name : String} {ty : Ty}
      (resolved : annotations name = some ty.kind) :
      Describes annotations heap (.mk place slot (.ident name)) ty
  | object {place : Span} {slot : Option Ty} {fields : List Field} {id : ObjectId}
      (held : ∀ name description, .mk name description ∈ fields →
        ∃ found, heap.field? id name = some found)
      (described : ∀ name description found, .mk name description ∈ fields →
        heap.field? id name = some found → Describes annotations heap description found) :
      Describes annotations heap (.mk place slot (.object fields)) (.object id)

/-- An object that got more fields still has those that were asked for. -/
theorem Describes.later {annotations : Annotations} {before after : Heap} {description : Node}
    {ty : Ty} (grown : before.Grows after)
    (described : Describes annotations before description ty) :
    Describes annotations after description ty := by
  induction described with
  | kind resolved => exact .kind resolved
  | object held _ inductionHypothesis =>
    refine .object (fun name description member => ?_)
      fun name description found member present => ?_
    · obtain ⟨found, present⟩ := held name description member
      exact ⟨found, grown.field? present⟩
    · obtain ⟨old, was⟩ := held name description member
      cases (grown.field? was).symm.trans present
      exact inductionHypothesis name description found member was

theorem describes_object {annotations : Annotations} {heap : Heap} {place : Span}
    {slot : Option Ty} {fields : List Field} {ty : Ty} :
    Describes annotations heap (.mk place slot (.object fields)) ty ↔
      ∃ id, ty = .object id ∧ ∀ name description, .mk name description ∈ fields →
        ∃ found, heap.field? id name = some found ∧
          Describes annotations heap description found := by
  constructor
  · rintro (_ | ⟨held, described⟩)
    refine ⟨_, rfl, fun name description member => ?_⟩
    obtain ⟨found, present⟩ := held name description member
    exact ⟨found, present, described name description found member present⟩
  · rintro ⟨id, rfl, all⟩
    refine .object (fun name description member => ?_)
      fun name description found member present => ?_
    · obtain ⟨found, present, -⟩ := all name description member
      exact ⟨found, present⟩
    · obtain ⟨other, was, described⟩ := all name description member
      cases was.symm.trans present
      exact described

/-! ### Tests -/

/-- A step that changes nothing, and that passes exactly if something holds. -/
structure IsTest (step : Check Unit) (checker : Checker) (holds : Prop) : Prop where
  same : (step.outcome checker).2 = checker
  passes : (step.outcome checker).1 = .ok () ↔ holds

namespace IsTest

variable {step next : Check Unit} {checker : Checker} {first second : Prop}

theorem pure (holds : first) : IsTest (Pure.pure ()) checker first :=
  ⟨rfl, iff_of_true rfl holds⟩

theorem fail (span : Span) (fault : Fault) (fails : ¬first) :
    IsTest (CallTyping.fail span fault) checker first :=
  ⟨rfl, iff_of_false nofun fails⟩

theorem outcome_eq (test : IsTest step checker first) (holds : first) :
    step.outcome checker = (.ok (), checker) :=
  Prod.ext (test.passes.mpr holds) test.same

theorem outcome_fails (test : IsTest step checker first) (fails : ¬first) :
    ∃ stop, step.outcome checker = (.error stop, checker) := by
  obtain ⟨same, passes⟩ := test
  generalize step.outcome checker = outcome at same passes ⊢
  obtain ⟨stop | ⟨⟩, after⟩ := outcome
  · exact ⟨stop, Prod.ext rfl same⟩
  · exact absurd (passes.mp rfl) fails

theorem congr (test : IsTest step checker first) (same : first ↔ second) :
    IsTest step checker second := ⟨test.same, test.passes.trans same⟩

/-- What follows a test is done in the same state, if the test passes. -/
theorem of_bind {α : Type} {next : Unit → Check α} {answer : α} {after : Checker}
    (test : IsTest step checker first)
    (done : (step >>= next).outcome checker = (.ok answer, after)) :
    first ∧ (next ()).outcome checker = (.ok answer, after) := by
  by_cases holds : first
  · rw [Check.outcome_bind_ok (test.outcome_eq holds)] at done
    exact ⟨holds, done⟩
  · obtain ⟨stop, fails⟩ := test.outcome_fails holds
    rw [Check.outcome_bind_error fails] at done
    cases done

/-- One test after the other. -/
theorem bind (test : IsTest step checker first) (rest : first → IsTest next checker second) :
    IsTest (step >>= fun _ => next) checker (first ∧ second) := by
  by_cases holds : first
  · have passed : (step >>= fun _ => next).outcome checker = next.outcome checker :=
      Check.outcome_bind_ok (test.outcome_eq holds)
    exact ⟨passed ▸ (rest holds).same,
      passed ▸ (rest holds).passes.trans (and_iff_right holds).symm⟩
  · obtain ⟨stop, fails⟩ := test.outcome_fails holds
    have stopped : (step >>= fun _ => next).outcome checker = (.error stop, checker) :=
      Check.outcome_bind_error fails
    exact ⟨congrArg Prod.snd stopped,
      iff_of_false (stopped ▸ nofun) fun both => holds both.1⟩

/-- A condition that has to hold. -/
theorem condition (holds : Prop) [Decidable holds] (span : Span) (fault : Fault) :
    IsTest (do unless holds do CallTyping.fail span fault) checker holds := by
  by_cases held : holds
  · rw [if_pos held]
    exact pure held
  · rw [if_neg held]
    exact fail span fault held

end IsTest

/-! ### Assertions -/

section

variable {annotations : Annotations} {span : Span} {checker : Checker}

theorem expectBool_isTest (ty : Ty) :
    IsTest (expectBool span ty) checker (ty = .bool) := by
  refine (IsTest.condition (ty.isBool = true) span _).congr ?_
  cases ty <;> simp [Ty.isBool, Ty.kind]

theorem expectKind_isTest (expected : Kind) (ty : Ty) :
    IsTest (expectKind span expected ty) checker (ty.kind = expected) :=
  IsTest.condition _ span _

theorem kind_eq_object {ty : Ty} : ty.kind = .object ↔ ∃ id, ty = .object id := by
  cases ty <;> simp [Ty.kind]

/-- A field that is asked for has to be there, and what follows concerns its type. -/
theorem annotatedField_isTest {id : ObjectId} {name : String} {next : Ty → Check Unit}
    {holds : Ty → Prop} (rest : ∀ found, IsTest (next found) checker (holds found)) :
    IsTest (annotatedField span (.object id) name >>= next) checker
      (∃ found, checker.heap.field? id name = some found ∧ holds found) := by
  cases held : checker.heap.field? id name with
  | some found =>
    have looks : (annotatedField span (.object id) name).outcome checker =
        (.ok found, checker) := by
      rw [annotatedField, Check.outcome_bind, Check.outcome_get]
      dsimp only
      rw [held]
      rfl
    constructor
    · rw [Check.outcome_bind_ok looks]
      exact (rest found).same
    · rw [Check.outcome_bind_ok looks, (rest found).passes]
      simp
  | none =>
    have looks : (annotatedField span (.object id) name).outcome checker =
        (.error (.fault ⟨checker.file, span, .missingAnnotatedField name (.object id)⟩),
          checker) := by
      rw [annotatedField, Check.outcome_bind, Check.outcome_get]
      dsimp only
      rw [held]
      rfl
    constructor
    · rw [Check.outcome_bind_error looks]
    · rw [Check.outcome_bind_error looks]
      simp

mutual

/-- An assertion passes exactly if the type is as described. -/
theorem assertType_isTest (ty : Ty) : (description : Node) →
    IsTest (assertType annotations span ty description) checker
      (Describes annotations checker.heap description ty)
  | .mk place slot (.object fields) => by
    rw [assertType]
    have object : Describes annotations checker.heap (.mk place slot (.object fields)) ty →
        ty.kind = .object := by
      rintro (_ | _)
      rfl
    refine ((expectKind_isTest .object ty).bind fun isObject => ?_).congr
      (and_iff_right_of_imp object)
    obtain ⟨id, rfl⟩ := kind_eq_object.mp isObject
    refine (assertFields_isTest id fields).congr (Iff.symm ?_)
    rw [describes_object]
    exact ⟨fun ⟨_, same, all⟩ => Ty.object.inj same ▸ all, fun all => ⟨id, rfl, all⟩⟩
  | .mk place slot (.ident name) => by
    rw [assertType]
    cases resolved : annotations name with
    | some expected =>
      refine (expectKind_isTest expected ty).congr ⟨fun same => .kind (same ▸ resolved), ?_⟩
      rintro ⟨found⟩
      exact Option.some.inj (found.symm.trans resolved)
    | none =>
      refine .fail place _ ?_
      rintro ⟨found⟩
      cases found.symm.trans resolved
  | .mk place _ (.literal _) | .mk place _ (.call _) | .mk place _ (.block _ _)
  | .mk place _ (.ifThen _ _) | .mk place _ (.ifThenElse _ _ _) | .mk place _ (.whileLoop _ _)
  | .mk place _ (.caseOf _ _) | .mk place _ (.dot _ _) | .mk place _ (.update _ _)
  | .mk place _ (.assertion _ _) | .mk place _ (.variant _ _) | .mk place _ (.define _ _)
  | .mk place _ (.require _) | .mk place _ (.inlay _) => .fail place _ nofun

theorem assertFields_isTest (id : ObjectId) : (fields : List Field) →
    IsTest (assertFields annotations span (.object id) fields) checker
      (∀ name description, .mk name description ∈ fields →
        ∃ found, checker.heap.field? id name = some found ∧
          Describes annotations checker.heap description found)
  | [] => by
    rw [assertFields]
    exact .pure nofun
  | .mk name description :: rest => by
    rw [assertFields]
    refine (annotatedField_isTest fun found =>
      (assertType_isTest found description).bind fun _ => assertFields_isTest id rest).congr ?_
    constructor
    · rintro ⟨found, held, described, others⟩ name' description' member
      rcases List.mem_cons.mp member with same | later
      · cases same
        exact ⟨found, held, described⟩
      · exact others name' description' later
    · intro all
      obtain ⟨found, held, described⟩ := all name description List.mem_cons_self
      exact ⟨found, held, described, fun name' description' later =>
        all name' description' (List.mem_cons_of_mem _ later)⟩

end

end

/-- An assertion gives its annotation back as it is, and has an answer exactly if its value has one
and this is as described. -/
theorem visitExpr_assertion (setup : Setup) (run : Runner) (toplevel : Bool) (span : Span)
    (value description : Node) (checker : Checker) :
    let visited := visitNode setup run false value checker
    let outcome := visitExpr setup run toplevel span (.assertion value description) checker
    outcome.1.1 = .assertion visited.1.1 description ∧ outcome.2 = visited.2 ∧
      ∀ ty, outcome.1.2 = .ok ty ↔
        visited.1.2 = .ok ty ∧ Describes setup.annotations visited.2.heap description ty := by
  dsimp only
  rw [visitExpr]
  rcases result : visitNode setup run false value checker with ⟨⟨piece, stop | found⟩, after⟩
  · rw [Visit.andThen_error result]
    exact ⟨rfl, rfl, fun ty => iff_of_false nofun fun both => nomatch both.1⟩
  rw [Visit.andThen_ok result, Visit.settle_eq]
  have test : IsTest (assertType setup.annotations piece.span found description) after _ :=
    assertType_isTest found description
  by_cases described : Describes setup.annotations after.heap description found
  · rw [Check.outcome_bind_ok (test.outcome_eq described)]
    refine ⟨rfl, rfl, fun ty => ⟨fun answered => ?_, And.left⟩⟩
    cases answered
    exact ⟨rfl, described⟩
  · obtain ⟨stop, fails⟩ := test.outcome_fails described
    rw [Check.outcome_bind_error fails]
    refine ⟨rfl, rfl, fun ty => iff_of_false nofun ?_⟩
    rintro ⟨⟨⟩, holds⟩
    exact described holds

end CallTyping
