/-
This file makes it possible to speak of all trees that a check fills with types, also
of those that it does not keep because it stops, or a call or a load in it does. An
inspected check gives up as soon as statements that were run come back as a tree that
does not pass. All trees of a check pass exactly if it is never given up. Since the
heap only grows, it is enough if the trees pass from whose states the heap can grow
into that at the end.
-/

import CallTyping.Proofs.HeapGrowth
import CallTyping.Proofs.Termination

namespace CallTyping

/-- Visits statements, and gives up if the tree they come back as does not pass. -/
def inspect (passes : Program → Program → Prop) [DecidableRel passes] (program : Program)
    (visit : Visit Program (List Ty)) : Visit Program (List Ty) := fun checker =>
  let (visited, after) := visit checker
  if passes program visited.1 then
    (visited, after)
  else
    ((visited.1, .error .exhausted), after)

variable (setup : Setup) (passes : Program → Program → Prop) [DecidableRel passes]

/-- Runs statements inside of others as long as all their trees pass. -/
def runInspected : Nat → Runner
  | 0 => fun _ program => .settle program (throw .exhausted)
  | levels + 1 => fun occasion program =>
    inspect passes program (runStatements setup (runInspected levels) occasion program)

/-- A check under inspection. -/
def checkInspected (request : Request) (checker : Checker) :
    (Program × Except Stop Unit) × Checker :=
  checkWith (runInspected request.setup passes (checker.headroom request.setup + 1)) request.file
    request.program checker

/-- All trees that are filled in a check pass beside the trees that they were: the check is not given
up under inspection, and so it comes to the same. -/
structure Inspected (request : Request) (checker : Checker) : Prop where
  ends : (checkInspected passes request checker).1.2 ≠ .error .exhausted
  same : checkInspected passes request checker =
    checkFile request.setup request.file request.program checker

/-! ### Trees that pass -/

theorem heap_endBody (caller : Checker) (id : ClosureId) (args : List Ty)
    (ran : (Program × Except Stop (List Ty)) × Checker) :
    (caller.endBody id args ran).2.heap = ran.2.heap := by
  obtain ⟨⟨body, stop | types⟩, after⟩ := ran <;> rfl

theorem heap_endFile (previous : Checker) (file : String)
    (ran : (Program × Except Stop (List Ty)) × Checker) :
    (previous.endFile file ran).2.heap = ran.2.heap := by
  obtain ⟨⟨typed, stop | types⟩, after⟩ := ran <;> rfl

/-- A state from which there is no way to the last heap. -/
def Astray (last : Heap) (checker : Checker) : Prop := ¬checker.heap.Grows last

/-- Where one runner gives up only astray, all that uses it does so too. -/
theorem astray_cuts {setup : Setup} {first second : Runner} {last : Heap}
    (grows : ∀ occasion program (checker : Checker),
      checker.heap.Grows (second occasion program checker).2.heap)
    (cut : ∀ occasion program checker,
      Cut (Astray last) (first occasion program checker) (second occasion program checker)) :
    Cuts (fun before _ after => before.heap.Grows after.heap) (fun _ => True)
      (fun _ => Astray last) setup first second where
  kept := grows_flow setup grows
  stays _ _ := trivial
  enters _ := trivial
  before _ astray := astray
  after astray grown way := astray (grown.trans way)
  scope astray := astray
  call span id args _ := runClosure_cut fun new shallow closure present => by
    unfold Astray
    rw [runClosure_ran new shallow present, heap_endBody]
    exact cut _ _ _
  load span file _ _ _ := loadFile_cut fun program loaded => by
    unfold Astray
    rw [loadFile_ran loaded, heap_endFile]
    exact cut _ _ _

section

variable {passes} {last : Heap}

/-- An inspection gives up only where the tree does not pass. -/
theorem inspect_cut {program : Program} {visit visit' : Visit Program (List Ty)}
    {checker : Checker} {strayed : Checker → Prop}
    (cut : Cut strayed (visit checker) (visit' checker))
    (fits : ¬strayed (visit' checker).2 → passes program (visit' checker).1.1) :
    Cut strayed (inspect passes program visit checker) (visit' checker) := by
  unfold inspect
  rcases cut with equal | ⟨gaveUp, strays⟩
  · rw [equal]
    by_cases fine : passes program (visit' checker).1.1
    · exact .inl (if_pos fine)
    · refine .inr ⟨?_, not_not.mp (mt fits fine)⟩
      dsimp only
      rw [if_neg fine]
  · refine .inr ⟨?_, strays⟩
    dsimp only
    split
    · exact gaveUp
    · rfl

theorem runInspected_cut (fine : ∀ levels occasion program checker,
      let ran := runWithin setup levels occasion program checker
      ran.2.heap.Grows last → passes program ran.1.1)
    (levels : Nat) (occasion : Occasion) (program : Program) (checker : Checker) :
    Cut (Astray last) (runInspected setup passes levels occasion program checker)
      (runWithin setup levels occasion program checker) := by
  induction levels generalizing occasion program checker with
  | zero => exact .inl rfl
  | succ levels inductionHypothesis =>
    have cuts : Cuts _ _ _ setup _ _ :=
      astray_cuts (runWithin_grows setup levels) inductionHypothesis
    exact inspect_cut (cuts.runStatements occasion program checker trivial) fun fits =>
      fine (levels + 1) occasion program checker (not_not.mp fits)

end

variable {setup passes}

/-- All trees pass that come with a heap which can grow into the one at the end of the check. -/
theorem inspected_of_grows (past : List Request) (request : Request)
    (fine : ∀ levels occasion program checker,
      let ran := runWithin request.setup levels occasion program checker
      ran.2.heap.Grows ((Checker.after past).checked request).heap → passes program ran.1.1) :
    Inspected passes request (Checker.after past) := by
  have cut : Cut (Astray ((Checker.after past).checked request).heap)
      (checkInspected passes request (Checker.after past))
      (checkFile request.setup request.file request.program (Checker.after past)) := by
    refine checkWith_cut fun closed => ?_
    rw [checkWith_closed _ _ _ _ closed]
    exact runInspected_cut request.setup fine _ _ _ _
  have same := cut.resolve_right fun gaveUp => gaveUp.2 (.refl _)
  exact ⟨by rw [same]; exact check_ends past request, same⟩

end CallTyping
