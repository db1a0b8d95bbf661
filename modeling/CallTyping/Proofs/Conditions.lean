/-
This file proves which conditions are known to be booleans in the trees that a check
leaves: in the program, in those of required files and in the bodies that were typed for
calls. The condition of a conditional is tested before the conditional gets its type.
The condition of a loop has some type but is not tested, so all conditions of a tree are
booleans exactly if those of its loops happen to be.
-/

import CallTyping.Proofs.Agreement
import CallTyping.Proofs.Keeping
import CallTyping.Proofs.Tested

namespace CallTyping

/-- The condition of a conditional or a loop. -/
def Expr.condition? : Expr → Option Node
  | .ifThen condition _ | .ifThenElse condition _ _ | .whileLoop condition _ => some condition
  | _ => none

def Expr.isLoop : Expr → Bool
  | .whileLoop _ _ => true
  | _ => false

/-- The conditions of the nodes that are concerned and have types, where others had none, are
booleans. -/
def BoolConditions (concerned : Expr → Bool) (source typed : Program) : Prop :=
  Newly (fun node => concerned node.expr = true →
      ∀ condition ∈ node.expr.condition?, condition.slot = some .bool)
    (preorderNodes source) (preorderNodes typed)

/-- What is known about the conditions of a tree that was filled with types. -/
structure ConditionsOf (source typed : Program) : Prop where
  conditionals : BoolConditions (!·.isLoop) source typed
  filled : Newly (fun node => ∀ condition ∈ node.expr.condition?, condition.isTyped = true)
    (preorderNodes source) (preorderNodes typed)
  loops : BoolConditions (fun _ => true) source typed ↔ BoolConditions Expr.isLoop source typed

theorem Newly.and {good better : Node → Prop} {sources nodes : List Node}
    (left : Newly good sources nodes) (right : Newly better sources nodes) :
    Newly (fun node => good node ∧ better node) sources nodes := by
  induction left with
  | nil => exact .nil
  | cons first _ inductionHypothesis =>
    obtain ⟨first', others⟩ := List.forall₂_cons.mp right
    exact .cons (fun untyped typed => ⟨first untyped typed, first' untyped typed⟩)
      (inductionHypothesis others)

theorem conditionsOf_tested {annotations : Annotations} {heap : Heap} {source typed : Program}
    (tested : NewlyTested annotations heap (preorderNodes source) (preorderNodes typed)) :
    ConditionsOf source typed := by
  have conditionals : BoolConditions (!·.isLoop) source typed := by
    refine tested.imp fun ⟨_, _, expr⟩ isTested other condition own => ?_
    cases expr with
    | ifThen | ifThenElse =>
      cases own
      exact isTested
    | whileLoop => cases other
    | _ => cases own
  refine ⟨conditionals, ?_, fun all => all.imp fun _ isBool _ => isBool rfl, fun loops => ?_⟩
  · refine tested.imp fun ⟨_, _, expr⟩ isTested condition own => ?_
    cases expr with
    | ifThen | ifThenElse =>
      cases own
      exact Option.isSome_of_eq_some isTested
    | whileLoop =>
      cases own
      exact isTested
    | _ => cases own
  · refine (conditionals.and loops).imp fun node ⟨isOther, isLoop⟩ _ => ?_
    cases looping : node.expr.isLoop with
    | true => exact isLoop looping
    | false => exact isOther (by simp [looping])

/-! ### Trees that are kept -/

/-- Files and bodies whose conditions are so. -/
def Trees.conditions (served : String → Program → Prop) : Trees where
  served := served
  file := ConditionsOf
  body source typed _ := ConditionsOf source typed

theorem runWithin_keepsConditions {setup : Setup} {served : String → Program → Prop}
    (serves : ∀ path source, setup.loader.load path = .ok source → served path source)
    (levels : Nat) : RunsKeep (.conditions served) (runWithin setup levels) := by
  have filled {occasion : Occasion} {program typed : Program} {types : List Ty}
      {checker after : Checker} {levels : Nat}
      (ran : runWithin setup levels occasion program checker = ((typed, .ok types), after)) :
      ConditionsOf program typed := by
    have tests := runWithin_tests setup levels occasion program checker
    have tested := conditionsOf_tested tests.newly
    rwa [ran] at tested
  induction levels with
  | zero => exact ⟨fun _ _ _ => .refl, fun _ => filled, fun _ => filled⟩
  | succ levels inductionHypothesis =>
    exact ⟨(kept_flow serves inductionHypothesis).runStatements, fun _ => filled, fun _ => filled⟩

theorem after_conditions (past : List Request) :
    Recorded (.conditions (Served past)) (Checker.after past) := by
  induction past using List.reverseRecOn with
  | nil => exact .initial _
  | append_singleton past request inductionHypothesis =>
    have runs := runWithin_keepsConditions (fun path source loaded =>
        (⟨request, List.mem_append_right _ List.mem_cons_self, loaded⟩ :
          Served (past ++ [request]) path source))
      ((Checker.after past).headroom request.setup + 1)
    have begun : Recorded (.conditions (Served (past ++ [request])))
        ((Checker.after past).enterFile request.file) := by
      have later := inductionHypothesis.serves fun path source ⟨other, member, loaded⟩ =>
        (⟨other, List.mem_append_left _ member, loaded⟩ : Served (past ++ [request]) path source)
      exact later.moved rfl rfl rfl
    have ran := (runs.kept (.file request.file) request.program _ begun).recorded
    rw [after_check]
    exact ran.moved rfl rfl rfl

/-! ### Checks -/

/-- In the program of a check, in the programs of required files and in the bodies that were typed
for calls, the conditions of all nodes that got their types are booleans if they belong to
conditionals, and if they belong to loops then they have some type; so all of them are booleans
exactly if those of the loops are. -/
theorem conditions_of_checked_trees (past : List Request) (request : Request) :
    let outcome := checkFile request.setup request.file request.program (Checker.after past)
    ConditionsOf request.program outcome.1.1 ∧
      (∀ path tree, outcome.2.modules.get? path = some tree →
        ∃ source, Served (past ++ [request]) path source ∧ ConditionsOf source tree) ∧
      ∀ id, ∀ entry ∈ outcome.2.cache.of id, ∀ result body, entry.progress = .done result body →
        ∃ closure, outcome.2.closures.get? id = some closure ∧
          Blank (preorderNodes closure.body) ∧ ConditionsOf closure.body body := by
  have recorded := after_conditions (past ++ [request])
  rw [after_append] at recorded
  refine ⟨?_, recorded.modules, fun id entry member result body done => ?_⟩
  · rw [checkFile_of_closed _ _ _ (after_closed past request.file)]
    have tests := runWithin_tests request.setup ((Checker.after past).headroom request.setup + 1)
      (.file request.file) request.program ((Checker.after past).enterFile request.file)
    exact conditionsOf_tested tests.newly
  · obtain ⟨closure, known, conditions⟩ := recorded.bodies id entry member result body done
    exact ⟨closure, known, recorded.blank id closure known, conditions⟩

/-- A loop over a number. -/
def numberLoop : Program :=
  [.untyped .origin (.whileLoop (.untyped .origin (.literal (.integer 1))) [])]

theorem numberLoop_passes :
    (checkAlone "main.brie" numberLoop).1.2 = .ok () ∧
      ¬BoolConditions (fun _ => true) numberLoop (checkAlone "main.brie" numberLoop).1.1 := by
  have filled : (checkAlone "main.brie" numberLoop).1.1 =
      [.mk .origin (some .unit)
        (.whileLoop (.mk .origin (some .integer) (.literal (.integer 1))) [])] := by
    rfl
  refine ⟨passes_of_isOk (by decide +kernel), fun all => ?_⟩
  have blank : Blank (preorderNodes numberLoop) := by unfold Blank; decide
  rw [filled] at all
  cases all.of_blank blank _ List.mem_cons_self rfl rfl _ rfl

end CallTyping
