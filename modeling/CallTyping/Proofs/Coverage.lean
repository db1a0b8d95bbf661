/-
This file proves that all trees of a check that passed are covered: the program
itself, the programs of required files, and the bodies that were typed for calls.
The last ones also have their result in their last statement. What a check keeps
was covered when it was put there, and is never changed afterwards.
-/

import CallTyping.Proofs.Keeping

namespace CallTyping

/-! ### Trees that are kept -/

/-- A tree is the source with types, on all nodes that are to have one. -/
structure Covers (source typed : Program) : Prop where
  fresh : typed.fresh = source.fresh
  covered : CoveredNodes typed

/-- The type of the last statement. -/
def lastType (body : Program) : Option Ty :=
  match body.getLast? with
  | some node => node.slot
  | none => some .unit

theorem lastType_of_slots {body : Program} {types : List Ty}
    (slots : body.map Node.slot = types.map some) : lastType body = some (Ty.ofBody types) := by
  have last := congrArg List.getLast? slots
  rw [List.getLast?_map, List.getLast?_map] at last
  unfold lastType Ty.ofBody
  cases found : body.getLast? with
  | none =>
    cases answered : types.getLast? with
    | none => rfl
    | some ty =>
      rw [found, answered] at last
      cases last
  | some node =>
    cases answered : types.getLast? with
    | none =>
      rw [found, answered] at last
      cases last
    | some ty =>
      rw [found, answered] at last
      exact Option.some.inj last

/-- What is asked of trees without types that a check fills. -/
def Trees.covered (setup : Setup) : Trees where
  served path source := setup.loader.load path = .ok source
  file := Covers
  body source typed result := Covers source typed ∧ lastType typed = some result

/-! ### Runs -/

/-- All that is asked of the runs of statements. -/
structure RunsCovered (setup : Setup) (run : Runner) : Prop where
  kept (occasion : Occasion) (program : Program) (checker : Checker) :
    Recorded (.covered setup) checker →
      Kept (.covered setup) checker (run occasion program checker).2
  yields (occasion : Occasion) (program : Program) : Blank (preorderNodes program) →
    Yields (run occasion program) (fun typed => freshNodes typed = freshNodes program)
      fun typed types => CoveredNodes typed ∧ typed.map Node.slot = types.map some

theorem RunsCovered.keep {setup : Setup} {run : Runner} (served : ∀ path source,
      setup.loader.load path = .ok source → Blank (preorderNodes source))
    (runs : RunsCovered setup run) : RunsKeep (.covered setup) run where
  kept := runs.kept
  file {path program _ types checker _} loaded ran := by
    have yields := runs.yields (.file path) program (served path program loaded) checker
    rw [ran] at yields
    exact ⟨yields.1, (yields.2 types rfl).1⟩
  body {id args program _ types checker _} blank ran := by
    have yields := runs.yields (.body id args) program blank checker
    rw [ran] at yields
    obtain ⟨covered, slots⟩ := yields.2 types rfl
    exact ⟨⟨yields.1, covered⟩, lastType_of_slots slots⟩

theorem runWithin_covered {setup : Setup} (served : ∀ path source,
      setup.loader.load path = .ok source → Blank (preorderNodes source)) (levels : Nat) :
    RunsCovered setup (runWithin setup levels) := by
  induction levels with
  | zero => exact ⟨fun _ _ _ => .refl, fun _ _ _ _ => ⟨rfl, nofun⟩⟩
  | succ levels inductionHypothesis =>
    have flow := kept_flow (fun _ _ => id) (inductionHypothesis.keep served)
    exact ⟨flow.runStatements, fun occasion program blank =>
      visitNodes_yields setup _ occasion.isFile program blank⟩

/-! ### Checks -/

/-- Programs that are kept by path are handed out without types. -/
theorem blank_load (sources : Sources) (path : String) (source : Program)
    (loaded : sources.loader.load path = .ok source) : Blank (preorderNodes source) := by
  change sources.load path = .ok source at loaded
  unfold Sources.load at loaded
  split at loaded
  · cases loaded
    exact blank_freshNodes _
  · cases loaded

/-- A program that requires a file, and matches on the argument of a function that it calls. -/
def matchingProgram : Program :=
  [.untyped .origin (.require "lib"),
   .untyped .origin (.define "f" (.untyped .origin (.block ["p"]
     [.untyped .origin (.caseOf (.untyped .origin (.ident "p"))
       [.mk .origin "A" [.untyped .origin (.ident "x")] [.untyped .origin (.ident "x")],
        .mk .origin "B" [] []])]))),
   .untyped .origin (.call [.untyped .origin (.ident "f"),
     .untyped .origin (.variant "A" [.untyped .origin (.literal (.bool true))])])]

/-- The check of a program with a file that it can require. -/
def matchingRequest : Request :=
  ⟨⟨.standard, .standard, Sources.loader (.singleton "lib.brie"
    [.untyped .origin (.define "one" (.untyped .origin (.literal (.integer 1))))])⟩,
    "main.brie", matchingProgram⟩

end CallTyping
