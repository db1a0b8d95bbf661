/-
This file proves where the answers of the record of calls come from. Whatever the
record tells about a call is what the body of the same block gave when it was
typed for a call of which nothing was known; and when that typing ended its
arguments had the structure of those that the record keeps.
-/

import CallTyping.Proofs.Blocks
import CallTyping.Proofs.Coverage
import CallTyping.Proofs.Reachable

namespace CallTyping

/-! ### What single actions keep -/

/-- The heap grows, blocks stay, and the record of calls is as before. -/
structure Action.Keeps (before after : Checker) : Prop where
  heap : before.heap.Grows after.heap
  closures : before.closures.Keeps after.closures
  cache : after.cache = before.cache

theorem Action.keeps {before after : Checker} (action : Action before after) :
    Action.Keeps before after := by
  cases action with
  | block params body span => exact ⟨.refl _, .remembered before (blank_freshNodes body), rfl⟩
  | join left right ty grown joined => exact ⟨Heap.join_grows joined, .refl _, rfl⟩
  | object fields => exact ⟨before.heap.newObject_grows fields, .refl _, rfl⟩
  | variant tags => exact ⟨before.heap.newVariant_grows tags, .refl _, rfl⟩
  | addField id name ty new =>
    exact ⟨before.heap.setField_grows id name ty new, .refl _, rfl⟩
  | _ => exact ⟨.refl _, .refl _, rfl⟩

/-! ### Typings -/

/-- The typing of a body, from a state in which nothing was known about the call to the state in
which all its statements had run. -/
structure Typing (setup : Setup) (id : ClosureId) where
  closure : Closure
  args : List Ty
  before : Checker
  levels : Nat
  body : Program
  types : List Ty
  after : Checker
  reached : Reached setup before
  isNew : NewCall setup before id closure args
  ran : runWithin setup levels (.body id args) closure.body (before.beginBody id closure args) =
    ((body, .ok types), after)

namespace Typing

variable {setup : Setup} {id : ClosureId}

def result (typing : Typing setup id) : Ty := Ty.ofBody typing.types

/-- In a state that came later, the record tells the result of a typing for arguments that stood in
the marker which the typing found when it ended. -/
structure Backs (typing : Typing setup id) (checker : Checker) (stored : List Ty) (result : Ty) :
    Prop where
  result : result = typing.result
  marker : ∃ marker ∈ typing.after.cache.of id,
    Cache.isMarker typing.after.heap typing.args marker = true ∧ marker.args = stored
  heap : typing.after.heap.Grows checker.heap
  known : checker.closures.get? id = some typing.closure

variable {typing : Typing setup id} {stored : List Ty} {result : Ty}

theorem Backs.later {before after : Checker} (backs : typing.Backs before stored result)
    (heap : before.heap.Grows after.heap) (closures : before.closures.Within after.closures) :
    typing.Backs after stored result :=
  ⟨backs.result, backs.marker, backs.heap.trans heap, closures id typing.closure backs.known⟩

/-- The arguments that are kept had the structure of those of the typing when it ended. -/
theorem Backs.sameArguments {checker : Checker} (backs : typing.Backs checker stored result) :
    typing.after.heap.sameArguments stored typing.args = true := by
  obtain ⟨marker, -, found, rfl⟩ := backs.marker
  exact (Bool.and_eq_true_iff.mp found).2

end Typing

/-! ### States -/

/-- Every finished entry of the record is the result of a typing. -/
structure Backed (setup : Setup) (checker : Checker) : Prop where
  bounded : checker.closures.Bounded
  entries (id : ClosureId) (entry : Specialization) : entry ∈ checker.cache.of id →
    ∀ result body, entry.progress = .done result body →
      ∃ typing : Typing setup id, typing.Backs checker entry.args result

namespace Backed

variable {setup : Setup} {checker : Checker}

theorem initial (setup : Setup) : Backed setup .initial where
  bounded _ _ known := nomatch known
  entries _ _ member := nomatch member

theorem act {after : Checker} (backed : Backed setup checker) (keeps : Action.Keeps checker after) :
    Backed setup after where
  bounded := keeps.closures.bounded backed.bounded
  entries id entry member result body done := by
    rw [keeps.cache] at member
    obtain ⟨typing, backs⟩ := backed.entries id entry member result body done
    exact ⟨typing, backs.later keeps.heap (keeps.closures.within backed.bounded)⟩

/-- Where the heap and the closures are the same, new entries have to be looked at only. -/
theorem withCache {after : Checker} (backed : Backed setup checker)
    (heap : after.heap = checker.heap) (closures : after.closures = checker.closures)
    (entries : ∀ id entry, entry ∈ after.cache.of id → ∀ result body,
      entry.progress = .done result body → entry ∈ checker.cache.of id ∨
        ∃ typing : Typing setup id, typing.Backs after entry.args result) :
    Backed setup after where
  bounded := closures ▸ backed.bounded
  entries id entry member result body done := by
    rcases entries id entry member result body done with old | new
    · obtain ⟨typing, backs⟩ := backed.entries id entry old result body done
      exact ⟨typing, backs.later (heap ▸ .refl _) (closures ▸ .refl _)⟩
    · exact new

end Backed

/-- In every state the record tells results of typings. -/
theorem Reached.backed {setup : Setup} {checker : Checker} (reached : Reached setup checker) :
    Backed setup checker := by
  induction reached with
  | initial => exact .initial setup
  | act _ action inductionHypothesis => exact inductionHypothesis.act action.keeps
  | refuse _ id args _ inductionHypothesis =>
    refine inductionHypothesis.withCache rfl rfl fun other entry member result body done => ?_
    rcases Cache.mem_mark (Cache.mem_abandon member) with old | ⟨-, rfl⟩
    · exact .inl old
    · cases done
  | begin _ isNew inductionHypothesis =>
    refine inductionHypothesis.withCache rfl rfl fun other entry member result body done => ?_
    rcases Cache.mem_mark member with old | ⟨-, rfl⟩
    · exact .inl old
    · cases done
  | @finish checker after reached _ id closure args isNew levels body types ran started ended =>
    refine ended.withCache rfl rfl fun other entry member result body' done => ?_
    rcases Cache.mem_finish member with old | ⟨rfl, marker, inside, found, rfl⟩
    · exact .inl old
    · cases done
      have keeps := runWithin_keeps setup levels (.body other args) closure.body
        (checker.beginBody other closure args)
      rw [ran] at keeps
      have known := keeps.within started.bounded other closure isNew.present
      exact .inr ⟨⟨closure, args, checker, levels, body, types, after, reached, isNew, ran⟩,
        rfl, ⟨marker, inside, found, rfl⟩, .refl _, known⟩
  | abandon _ _ _ _ _ ended =>
    refine ended.withCache rfl rfl fun other entry member result body done => ?_
    exact .inl (Cache.mem_abandon member)

/-- A call that is answered from the record is answered with the result of a typing. -/
theorem Reached.recalled {setup : Setup} {checker : Checker} (reached : Reached setup checker)
    {id : ClosureId} {args : List Ty} {result : Ty}
    (answered : (checker.cache.start checker.heap id args).1 = .known result) :
    ∃ (stored : List Ty) (typing : Typing setup id), typing.Backs checker stored result ∧
      checker.heap.sameArguments stored args = true := by
  rcases found : checker.cache.recalled? checker.heap id args with
    _ | ⟨stored, _ | ⟨recorded, body⟩⟩
  · rw [Cache.start_of_none found] at answered
    cases answered
  · rw [Cache.start_of_running found] at answered
    cases answered
  · rw [Cache.start_of_done found] at answered
    cases answered
    obtain ⟨typing, backs⟩ := reached.backed.entries id _ (List.mem_of_find?_eq_some found)
      result body rfl
    exact ⟨stored, typing, backs, (List.find?_eq_some_iff_append.mp found).1⟩

end CallTyping
