/-
This file proves what assertions are worth. They pass exactly for the types that are
as described and leave no trace, and what was asserted once can be asserted again at
the end of the check, wherever in the check that was: among the statements of a file
or of a body, and also if these were given up later.
-/

import CallTyping.Proofs.Inspection
import CallTyping.Proofs.Tested

namespace CallTyping

/-- Assertions of nodes that have types, where others had none, pass in a state and leave it as it
is. -/
def HoldAgain (annotations : Annotations) (last : Checker) (source typed : Program) : Prop :=
  Newly (fun node => ∀ value description, node.expr = .assertion value description →
      ∃ ty, value.slot = some ty ∧
        (assertType annotations value.span ty description).outcome last = (.ok (), last))
    (preorderNodes source) (preorderNodes typed)

/-- What was tested before passes in a state to whose heap the heap has grown. -/
theorem holdAgain_of_tested {annotations : Annotations} {heap : Heap} {last : Checker}
    {source typed : Program} (grown : heap.Grows last.heap)
    (tested : NewlyTested annotations heap (preorderNodes source) (preorderNodes typed)) :
    HoldAgain annotations last source typed := by
  refine (tested.later grown).imp fun node isTested value description asserted => ?_
  rw [asserted] at isTested
  obtain ⟨ty, typed, described⟩ := isTested
  exact ⟨ty, typed, (assertType_isTest ty description).outcome_eq described⟩

open Classical in
/-- An assertion changes nothing, and passes exactly if the type is as its annotation describes it.
The node of an assertion comes back with its annotation as it was. At the end of a check all
assertions that passed in it, in whatever statements, would pass again. -/
theorem assertions_hold (past : List Request) (request : Request) :
    (∀ annotations span ty description checker,
      let ended := (assertType annotations span ty description).outcome checker
      ended.2 = checker ∧
        (ended.1 = .ok () ↔ Describes annotations checker.heap description ty)) ∧
      (∀ setup run toplevel span value description checker,
        let visited := visitNode setup run false value checker
        let outcome := visitExpr setup run toplevel span (.assertion value description) checker
        outcome.1.1 = .assertion visited.1.1 description ∧ outcome.2 = visited.2 ∧
          ∀ ty, outcome.1.2 = .ok ty ↔
            visited.1.2 = .ok ty ∧ Describes setup.annotations visited.2.heap description ty) ∧
      Inspected
        (HoldAgain request.setup.annotations ((Checker.after past).checked request)) request
        (Checker.after past) := by
  refine ⟨fun annotations span ty description checker => ?_, visitExpr_assertion, ?_⟩
  · exact ⟨(assertType_isTest ty description).same, (assertType_isTest ty description).passes⟩
  · refine inspected_of_grows past request fun levels occasion program checker grown => ?_
    exact holdAgain_of_tested grown
      (runWithin_tests request.setup levels occasion program checker).newly

end CallTyping
