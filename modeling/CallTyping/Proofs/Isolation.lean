/-
This file proves that a call and its caller do not see each other's names. The body
runs in the scopes and the file of the place where the block was written, so what
the call comes to does not depend on where its caller is. In the other direction
the body names types in frames of its own: new names go to the innermost frame,
which is always a new one, and an update leaves every name as it is. So all frames
from before the call are the same after it, and top-level names as well unless
something is required.
-/

import CallTyping.Proofs.Requires
import CallTyping.Proofs.Restoration

namespace CallTyping

/-! ### Callers at another place -/

/-- The same state in other scopes and another file. -/
def Checker.moved (checker : Checker) (scopes : Scopes) (file : String) : Checker :=
  { checker with bindings := checker.bindings.withScopes scopes, file }

/-- Two calls of one function from different places come to the same, or both are refused for a
reason that lies in the call itself and is told at the place of the caller. -/
inductive SameCall (span : Span) (file file' : String) :
    Except Stop Ty → Except Stop Ty → Prop where
  | equal (answer : Except Stop Ty) : SameCall span file file' answer answer
  | refused (fault : Fault) (ofCall : fault.isOfCall = true) :
    SameCall span file file' (.error (.fault ⟨file, span, fault⟩))
      (.error (.fault ⟨file', span, fault⟩))

/-- What a call comes to does not depend on where its caller is. -/
theorem runClosure_moved (setup : Setup) (run : Runner) (span : Span) (id : ClosureId)
    (args : List Ty) (caller : Checker) (scopes : Scopes) (file : String) :
    let here := (runClosure setup run span id args).outcome caller
    let there := (runClosure setup run span id args).outcome (caller.moved scopes file)
    SameCall span caller.file file here.1 there.1 ∧ there.2 = here.2.moved scopes file := by
  -- Both look into the same record, and the body begins to run in the same state.
  rcases found : caller.cache.recalled? caller.heap id args with _ | ⟨stored, _ | ⟨result, body⟩⟩
  · have foundThere : (caller.moved scopes file).cache.recalled? (caller.moved scopes file).heap
        id args = none := found
    rw [outcome_runClosure_new found, outcome_runClosure_new foundThere]
    by_cases deep : setup.settings.depthLimit ≤ caller.callDepth
    · have deepThere : setup.settings.depthLimit ≤ (caller.moved scopes file).callDepth := deep
      rw [if_pos deep, if_pos deepThere]
      exact ⟨.refused _ rfl, rfl⟩
    · have shallowThere : ¬setup.settings.depthLimit ≤ (caller.moved scopes file).callDepth := deep
      rw [if_neg deep, if_neg shallowThere]
      have same : (caller.moved scopes file).closures.get? id = caller.closures.get? id := rfl
      rw [same]
      cases caller.closures.get? id with
      | none => exact ⟨.refused _ rfl, rfl⟩
      | some closure =>
        have begins : (caller.moved scopes file).beginBody id closure args =
          caller.beginBody id closure args := rfl
        dsimp only
        rw [begins]
        rcases run (.body id args) closure.body (caller.beginBody id closure args) with
          ⟨⟨body, stop | types⟩, after⟩
        · exact ⟨.equal _, rfl⟩
        · exact ⟨.equal _, rfl⟩
  · have foundThere : (caller.moved scopes file).cache.recalled? (caller.moved scopes file).heap
        id args = some ⟨stored, .running⟩ := found
    rw [outcome_runClosure_running found, outcome_runClosure_running foundThere]
    exact ⟨.refused _ rfl, rfl⟩
  · have foundThere : (caller.moved scopes file).cache.recalled? (caller.moved scopes file).heap
        id args = some ⟨stored, .done result body⟩ := found
    rw [outcome_runClosure_known found, outcome_runClosure_known foundThere]
    exact ⟨.equal _, rfl⟩

/-! ### Frames -/

/-- All cells from before are the same, apart from those that may be touched. -/
structure Arena.Spared {α : Type} (touched : Nat → Prop) (before after : Arena α) : Prop where
  size : before.size ≤ after.size
  cells (index : Nat) : index < before.size → ¬touched index → after.get? index = before.get? index

namespace Arena.Spared

variable {α : Type} {touched : Nat → Prop} {before middle after : Arena α}

theorem refl (arena : Arena α) : Spared touched arena arena :=
  ⟨Nat.le_refl _, fun _ _ _ => rfl⟩

theorem trans (left : Spared touched before middle) (right : Spared touched middle after) :
    Spared touched before after where
  size := Nat.le_trans left.size right.size
  cells index old untouched :=
    (right.cells index (Nat.lt_of_lt_of_le old left.size) untouched).trans
      (left.cells index old untouched)

/-- A cell that is opened is new. -/
theorem allocate (arena : Arena α) (value : α) : Spared touched arena (arena.allocate value).2 where
  size := Nat.le.intro (Arena.size_allocate arena value).symm
  cells index old _ := Arena.get?_allocate_other arena value index old

theorem set (arena : Arena α) (index : Nat) (value : α) :
    Spared (· = index) arena (arena.set index value) where
  size := Nat.le_of_eq (Arena.size_set arena _ _).symm
  cells other _ different := Arena.get?_set_other arena index other value different

/-- Only cells from before count. -/
theorem narrow {touched' : Nat → Prop} (spared : Spared touched before after)
    (covers : ∀ index, index < before.size → touched index → touched' index) :
    Spared touched' before after :=
  ⟨spared.size, fun index old untouched =>
    spared.cells index old fun touches => untouched (covers index old touches)⟩

/-- Nothing from before is touched when only a new cell is. -/
theorem of_new {index : Nat} (opens : Spared (fun _ => False) before middle)
    (fresh : before.size ≤ index) (spared : Spared (· = index) middle after) :
    Spared (fun _ => False) before after := by
  have early : Spared (· = index) before middle :=
    opens.narrow fun _ _ touches => touches.elim
  exact (early.trans spared).narrow fun other old same =>
    absurd (Nat.lt_of_lt_of_le (same ▸ old) fresh) (Nat.lt_irrefl _)

end Arena.Spared

/-- No frame from before is touched, except for the innermost one. -/
structure Confined (before after : Checker) : Prop where
  restored : Restored before after
  frames : Arena.Spared (· = before.bindings.scopes.innermost.index) before.bindings.frames
    after.bindings.frames

namespace Confined

variable {before middle after : Checker}

theorem refl (checker : Checker) : Confined checker checker := ⟨.refl checker, .refl _⟩

theorem trans (left : Confined before middle) (right : Confined middle after) :
    Confined before after := by
  have frames := right.frames
  rw [left.restored.scopes] at frames
  exact ⟨left.restored.trans right.restored, left.frames.trans frames⟩

/-- Where no frame from before is touched, it does not matter which one is the innermost. -/
theorem of_untouched (restored : Restored before after)
    (frames : Arena.Spared (fun _ => False) before.bindings.frames after.bindings.frames) :
    Confined before after :=
  ⟨restored, frames.narrow fun _ _ touches => touches.elim⟩

end Confined

/-- The arguments of a body are bound in its innermost frame. -/
theorem bindAll_spares (given : List (String × Ty)) (span : Span) (bindings : Bindings) :
    let bound := given.foldl (fun bindings (name, ty) => bindings.bind name ⟨ty, span⟩) bindings
    bound.scopes = bindings.scopes ∧
      Arena.Spared (· = bindings.scopes.innermost.index) bindings.frames bound.frames := by
  induction given generalizing bindings with
  | nil => exact ⟨rfl, .refl _⟩
  | cons entry rest inductionHypothesis =>
    obtain ⟨scopes, spared⟩ := inductionHypothesis (bindings.bind entry.1 ⟨entry.2, span⟩)
    exact ⟨scopes, (Arena.Spared.set bindings.frames _ _).trans spared⟩

/-- A body begins in a new frame. -/
theorem enterBody_spares (caller : Checker) (closure : Closure) (args : List Ty) :
    (caller.enterBody closure args).bindings.scopes.innermost.index =
        caller.bindings.frames.size ∧
      Arena.Spared (fun _ => False) caller.bindings.frames
        (caller.enterBody closure args).bindings.frames := by
  obtain ⟨scopes, spared⟩ := bindAll_spares (closure.params.zip args) closure.span
    (caller.bindings.withScopes closure.scopes).enter
  have opens : Arena.Spared (fun _ => False) caller.bindings.frames
      (caller.bindings.withScopes closure.scopes).enter.frames := .allocate _ _
  exact ⟨congrArg (·.innermost.index) scopes, opens.of_new (Nat.le_refl _) spared⟩

/-- Whatever a call comes to, it touches none of the frames from before. -/
theorem call_spares {setup : Setup} {run : Runner} {span : Span} {id : ClosureId}
    {args : List Ty} {caller : Checker} {outcome : Except Stop Ty × Checker}
    (runs : ∀ occasion program checker, Confined checker (run occasion program checker).2)
    (ends : CallEnds setup run span id args caller outcome) :
    Arena.Spared (fun _ => False) caller.bindings.frames outcome.2.bindings.frames := by
  cases ends with
  | known | running | tooDeep | unknown => exact .refl _
  | typed closure body types after _ _ _ ran | failed closure body stop after _ _ _ ran =>
    have confined := runs (.body id args) closure.body (caller.beginBody id closure args)
    rw [ran] at confined
    obtain ⟨innermost, opens⟩ := enterBody_spares caller closure args
    exact opens.of_new (Nat.le_of_eq innermost.symm) confined.frames

theorem confined_flow (setup : Setup) {run : Runner}
    (confines : ∀ occasion program checker, Confined checker (run occasion program checker).2) :
    Flow (fun before _ after => Confined before after) setup run :=
  have restores := restored_flow setup fun occasion program checker =>
    (confines occasion program checker).restored
  { still := Confined.refl
    trans := Confined.trans
    fault := fun checker _ _ _ => .refl checker
    record := fun checker _ => ⟨⟨rfl, rfl, rfl, rfl⟩, .refl _⟩
    inlay := fun checker _ _ => ⟨⟨rfl, rfl, rfl, rfl⟩, .refl _⟩
    bind := fun checker _ _ _ => ⟨⟨rfl, rfl, rfl, rfl⟩, .set _ _ _⟩
    define := fun checker _ _ _ => ⟨⟨rfl, rfl, rfl, rfl⟩, .refl _⟩
    block := fun checker _ _ _ => ⟨⟨rfl, rfl, rfl, rfl⟩, .refl _⟩
    join := fun checker _ _ _ _ _ => ⟨⟨rfl, rfl, rfl, rfl⟩, .refl _⟩
    object := fun checker _ => ⟨⟨rfl, rfl, rfl, rfl⟩, .refl _⟩
    variant := fun checker _ => ⟨⟨rfl, rfl, rfl, rfl⟩, .refl _⟩
    addField := fun checker _ _ _ _ => ⟨⟨rfl, rfl, rfl, rfl⟩, .refl _⟩
    scope := fun {checker _ stop} inner =>
      .of_untouched (@Flow.scope _ _ _ restores _ _ stop inner.restored)
        ((Arena.Spared.allocate checker.bindings.frames .empty).of_new (Nat.le_refl _) inner.frames)
    call := fun ends => .of_untouched (restores.call ends) (call_spares confines ends)
    load := fun {checker span file outcome} closed unknown ends => by
      refine .of_untouched (restores.load closed unknown ends) ?_
      cases ends with
      | missing => exact .refl _
      | checked program typed types after _ ran | failed program typed stop after _ ran =>
        have inner := confines (.file file) program (checker.beginFile file)
        rw [ran] at inner
        exact (Arena.Spared.allocate checker.bindings.frames .empty).of_new (Nat.le_refl _)
          inner.frames }

theorem runWithin_confined (setup : Setup) (levels : Nat) (occasion : Occasion)
    (program : Program) (checker : Checker) :
    Confined checker (runWithin setup levels occasion program checker).2 := by
  induction levels generalizing occasion program checker with
  | zero => exact .refl checker
  | succ levels inductionHypothesis =>
    exact (confined_flow setup inductionHypothesis).runStatements occasion program checker

/-! ### Calls -/

/-- A call does not see where its caller is: from two places it comes to the same, up to the file
in which a fault of the call itself is reported, and it leaves the same state, up to the place. And
whatever it comes to, the caller finds all its names as they were: the place and every frame from
before are the same, and so is the top level of every file unless requires have been visited. -/
theorem calls_are_isolated (setup : Setup) (levels : Nat) (span : Span) (id : ClosureId)
    (args : List Ty) (caller : Checker) (scopes : Scopes) (file : String) :
    let call := runClosure setup (runWithin setup levels) span id args
    let here := call.outcome caller
    let there := call.outcome (caller.moved scopes file)
    SameCall span caller.file file here.1 there.1 ∧
      there.2 = here.2.moved scopes file ∧
      Restored caller here.2 ∧
      (∀ index < caller.bindings.frames.size,
        here.2.bindings.frames.get? index = caller.bindings.frames.get? index) ∧
      (here.2.requires = caller.requires →
        here.2.bindings.toplevel = caller.bindings.toplevel) := by
  intro call here there
  obtain ⟨sameCall, moved⟩ :=
    runClosure_moved setup (runWithin setup levels) span id args caller scopes file
  have ends := runClosure_ends setup (runWithin setup levels) span id args caller
  have restored : Restored caller here.2 :=
    (restored_flow setup (runWithin_restores setup levels)).call ends
  have spared := call_spares (runWithin_confined setup levels) ends
  have inward := (runWithin_inward setup levels).call ends
  exact ⟨sameCall, moved, restored, fun index old => spared.cells index old not_false,
    inward.toplevel⟩

end CallTyping
