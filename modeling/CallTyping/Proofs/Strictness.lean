/-
This file proves that two of the settings only decide how much is accepted: whether
arms that never apply are rejected, and how deep bodies may be nested. A check with
the stricter setting goes in step with one that has the more generous setting. It
stops with the fault that belongs to the setting, or both leave the same trees, the
same answer and the same state. The number of levels under which a check runs depends
on the nesting that is allowed, so the lower limit is first given the levels of the
higher one.
-/

import CallTyping.Proofs.Following
import CallTyping.Proofs.Tandem
import CallTyping.Proofs.Termination

namespace CallTyping

/-! ### Checks in step -/

/-- Two checks that are in the same state until the first one stops by itself. -/
def Tandem.inStep (quits : Stop → Prop) : Tandem := ⟨Eq, Eq, quits⟩

/-- The first visit has stopped by itself, or both have come to the same in all respects. -/
theorem Tandem.Ends.eq_of_inStep {α β : Type} {quits : Stop → Prop}
    {first second : (α × Except Stop β) × Checker}
    (ends : (Tandem.inStep quits).Ends first second) :
    (∃ stop, quits stop ∧ first.1.2 = .error stop) ∨ first = second := by
  cases ends with
  | quit own => exact .inl ⟨_, own, rfl⟩
  | answer same | stop same => exact .inr (congrArg _ same)

theorem Tandem.Ends.same {α β : Type} {quits : Stop → Prop}
    (outcome : (α × Except Stop β) × Checker) : (Tandem.inStep quits).Ends outcome outcome := by
  obtain ⟨⟨piece, stop | found⟩, after⟩ := outcome
  · exact .stop rfl
  · exact .answer rfl

/-- A setup accepts what another one accepts, but for some reasons to stop. -/
structure Stricter (quits : Stop → Prop) (setup setup' : Setup) : Prop where
  annotations : setup'.annotations = setup.annotations
  loader : setup'.loader = setup.loader
  extension : setup'.settings.extension = setup.settings.extension
  arm (variant : VariantId) (arm : Arm) :
    (Tandem.inStep quits).Steps (selectArm setup.settings.unknownArms variant arm)
      (selectArm setup'.settings.unknownArms variant arm)
  limit : setup.settings.depthLimit ≤ setup'.settings.depthLimit
  deep (file : String) (span : Span) :
    quits (.fault ⟨file, span, .specializationTooDeep setup.settings.depthLimit⟩) ∨
      setup'.settings.depthLimit = setup.settings.depthLimit

namespace Stricter

variable {quits : Stop → Prop} {setup setup' : Setup}

theorem sound (stricter : Stricter quits setup setup') :
    (Tandem.inStep quits).Sound setup setup' where
  annotations := stricter.annotations
  loader := stricter.loader
  extension := stricter.extension
  file := by rintro _ _ rfl; rfl
  heap := by rintro _ _ rfl; rfl
  lookup _ := by rintro rfl; rfl
  definitions _ := by rintro rfl; rfl
  next := by rintro _ _ rfl; rfl
  halts := id
  record _ := by rintro rfl; rfl
  inlay _ _ := by rintro rfl; rfl
  withHeap _ := by rintro rfl; rfl
  bind _ _ := by rintro rfl; rfl
  define _ _ := by rintro rfl; rfl
  block _ _ _ := by rintro rfl; rfl
  arm := stricter.arm
  enterScope := by rintro _ _ rfl; rfl
  leaveScope := by rintro _ _ rfl; rfl
  stopScope := by rintro _ _ rfl; rfl
  recalled _ _ := by rintro rfl; rfl
  refused _ _ := by rintro rfl; rfl
  deep {checker _} span := by
    rintro rfl deep
    exact (stricter.deep checker.file span).imp_right fun same => ⟨same, same ▸ deep⟩
  shallow := by
    rintro _ _ rfl shallow
    exact Nat.lt_of_lt_of_le shallow stricter.limit
  beginBody {checker _} id := by
    rintro rfl
    cases checker.closures.get? id with
    | none => exact .none
    | some closure => exact .some ⟨rfl, fun _ => rfl⟩
  endBody _ _ _ _ := by rintro rfl rfl; rfl
  stopBody _ _ := by rintro rfl rfl; rfl
  isOpen _ _ := by rintro rfl; exact .inr rfl
  missing _ := by rintro rfl _ _; rfl
  beginFile _ := by rintro rfl _ _; rfl
  stopFile _ := by rintro rfl _ rfl; rfl
  expose span name file typed := by
    rintro rfl _ rfl
    exact .same _

/-- A check with the stricter setup stops by itself, or both checks come to the same if they run
with as many levels. -/
theorem checkWith_agrees (stricter : Stricter quits setup setup') (levels : Nat) (file : String)
    (program : Program) (checker : Checker) :
    let first := checkWith (runWithin setup levels) file program checker
    let second := checkWith (runWithin setup' levels) file program checker
    (∃ stop, quits stop ∧ first.1.2 = .error stop) ∨ first = second := by
  dsimp only
  cases opened : checker.isOpen file with
  | true =>
    rw [checkWith_open _ _ _ _ opened, checkWith_open _ _ _ _ opened]
    exact .inr rfl
  | false =>
    rw [checkWith_closed _ _ _ _ opened, checkWith_closed _ _ _ _ opened]
    have both := stricter.sound.runWithin levels (.file file) program _ _
      (rfl : checker.enterFile file = checker.enterFile file)
    rcases both.eq_of_inStep with ⟨stop, own, stops⟩ | same
    · refine .inl ⟨stop, own, ?_⟩
      dsimp only
      rw [stops]
      rfl
    · rw [same]
      exact .inr rfl

end Stricter

/-! ### Arms that never apply -/

/-- The same setup with another choice for arms that never apply. -/
def Setup.withArms (setup : Setup) (unknownArms : UnknownArms) : Setup :=
  { setup with settings := { setup.settings with unknownArms } }

/-- The fault of an arm that never applies. -/
def Stop.IsUnknownTag (stop : Stop) : Prop :=
  ∃ place span tag variant, stop = .fault ⟨place, span, .unknownTag tag (.variant variant)⟩

/-- An arm is rejected, or treated alike. -/
theorem selectArm_rejecting (variant : VariantId) (arm : Arm) :
    (Tandem.inStep Stop.IsUnknownTag).Steps (selectArm .reject variant arm)
      (selectArm .skip variant arm) := by
  rintro checker _ rfl
  obtain ⟨span, tag, args, body⟩ := arm
  rw [Visit.settle_eq, Visit.settle_eq]
  cases found : checker.heap.tag? variant tag with
  | none =>
    rw [outcome_selectArm_rejected found]
    exact .quit ⟨checker.file, span, tag, variant, rfl⟩
  | some expected =>
    rw [outcome_selectArm_known found, outcome_selectArm_known found]
    exact .same _

theorem rejecting_stricter (setup : Setup) :
    Stricter Stop.IsUnknownTag (setup.withArms .reject) (setup.withArms .skip) where
  annotations := rfl
  loader := rfl
  extension := rfl
  arm := selectArm_rejecting
  limit := Nat.le_refl _
  deep _ _ := .inr rfl

/-- From every state, a check that rejects arms that never apply stops at one of them, or it leaves
the same tree, gives the same answer and leaves the same state as a check that skips them. -/
theorem rejecting_adds_one_fault (setup : Setup) (file : String) (program : Program)
    (checker : Checker) :
    let rejecting := checkFile (setup.withArms .reject) file program checker
    let skipping := checkFile (setup.withArms .skip) file program checker
    (∃ place span tag variant,
        rejecting.1.2 = .error (.fault ⟨place, span, .unknownTag tag (.variant variant)⟩)) ∨
      rejecting = skipping := by
  -- The number of levels does not depend on the choice.
  refine ((rejecting_stricter setup).checkWith_agrees (checker.headroom setup + 1) file program
    checker).imp_left ?_
  rintro ⟨_, ⟨place, span, tag, variant, rfl⟩, stops⟩
  exact ⟨place, span, tag, variant, stops⟩

/-! ### Nesting of bodies -/

/-- The same setup with another limit on the nesting of bodies. -/
def Setup.withLimit (setup : Setup) (depthLimit : Nat) : Setup :=
  { setup with settings := { setup.settings with depthLimit } }

/-- The fault of a body that would be nested deeper than a limit. -/
def Stop.IsTooDeep (limit : Nat) (stop : Stop) : Prop :=
  ∃ place span, stop = .fault ⟨place, span, .specializationTooDeep limit⟩

theorem lower_stricter (setup : Setup) {limit higher : Nat} (raised : limit ≤ higher) :
    Stricter (Stop.IsTooDeep limit) (setup.withLimit limit) (setup.withLimit higher) where
  annotations := rfl
  loader := rfl
  extension := rfl
  arm _ _ := by
    rintro checker _ rfl
    exact .same _
  limit := raised
  deep file span := .inl ⟨file, span, rfl⟩

/-- From every state, a check is never given up for its bound. -/
theorem checkFile_ends (setup : Setup) (file : String) (program : Program) (checker : Checker) :
    (checkFile setup file program checker).1.2 ≠ .error .exhausted := by
  -- In a state beyond the limit no body is entered, just as if the limit were the depth reached.
  let reached := max setup.settings.depthLimit checker.callDepth
  have levels : checker.headroom (setup.withLimit reached) = checker.headroom setup := by
    show reached - checker.callDepth + _ = setup.settings.depthLimit - checker.callDepth + _
    exact congrArg (· + _) (by omega)
  have ends :
      (checkFile (setup.withLimit reached) file program checker).1.2 ≠ .error .exhausted :=
    @check_ends_of_depth ⟨setup.withLimit reached, file, program⟩ checker (Nat.le_max_right _ _)
  rw [checkFile, levels] at ends
  have raised : setup.settings.depthLimit ≤ reached := Nat.le_max_left _ _
  rcases (lower_stricter setup raised).checkWith_agrees (checker.headroom setup + 1) file program
    checker with ⟨_, ⟨place, span, rfl⟩, stops⟩ | same
  · intro gaveUp
    cases stops.symm.trans gaveUp
  · exact fun gaveUp => ends (same ▸ gaveUp)

/-- From every state, a check that is not stopped by the limit on the nesting of bodies leaves the
same tree, gives the same answer and leaves the same state with any higher limit. -/
theorem raised_limit_is_harmless (setup : Setup) {limit higher : Nat} (raised : limit ≤ higher)
    (file : String) (program : Program) (checker : Checker)
    (within : ∀ place span,
      (checkFile (setup.withLimit limit) file program checker).1.2 ≠
        .error (.fault ⟨place, span, .specializationTooDeep limit⟩)) :
    checkFile (setup.withLimit higher) file program checker =
      checkFile (setup.withLimit limit) file program checker := by
  let levels := checker.headroom (setup.withLimit higher) + 1
  have enough : checker.headroom (setup.withLimit limit) < levels := by
    show limit - checker.callDepth + _ < higher - checker.callDepth + _ + 1
    exact Nat.lt_succ_of_le (Nat.add_le_add_right (by omega) _)
  have lifted : checkWith (runWithin (setup.withLimit limit) levels) file program checker =
      checkFile (setup.withLimit limit) file program checker :=
    @checkFile_more ⟨setup.withLimit limit, file, program⟩ checker levels enough
      (checkFile_ends _ file program checker)
  rcases (lower_stricter setup raised).checkWith_agrees levels file program checker with
    ⟨_, ⟨place, span, rfl⟩, stops⟩ | same
  · rw [lifted] at stops
    exact absurd stops (within place span)
  · exact same.symm.trans lifted

/-- A function that calls another one, and a call of it. -/
def nestedCalls : Program :=
  [define "f" (block [name "p"]), define "g" (block [call "f" (name "p")]),
   call "g" (.untyped .origin (.literal (.integer 1)))]
where
  name (text : String) : Node := .untyped .origin (.ident text)
  define (text : String) (value : Node) : Node := .untyped .origin (.define text value)
  block (body : Program) : Node := .untyped .origin (.block ["p"] body)
  call (callee : String) (arg : Node) : Node := .untyped .origin (.call [name callee, arg])

/-- The bodies of these calls are nested two deep: a lower limit stops their check, and a higher
one makes no difference. -/
theorem nestedCalls_need_two :
    (checkFile (Setup.standard.withLimit 1) "main.brie" nestedCalls .initial).1.2.isOk = false ∧
      2 ≤ 5 ∧
      (∀ place span,
        (checkFile (Setup.standard.withLimit 2) "main.brie" nestedCalls .initial).1.2 ≠
          .error (.fault ⟨place, span, .specializationTooDeep 2⟩)) ∧
      checkFile (Setup.standard.withLimit 5) "main.brie" nestedCalls .initial =
        checkFile (Setup.standard.withLimit 2) "main.brie" nestedCalls .initial := by
  have passes : (checkFile (Setup.standard.withLimit 2) "main.brie" nestedCalls
      .initial).1.2.isOk = true := by decide +kernel
  have within : ∀ place span,
      (checkFile (Setup.standard.withLimit 2) "main.brie" nestedCalls .initial).1.2 ≠
        .error (.fault ⟨place, span, .specializationTooDeep 2⟩) := by
    intro place span stops
    rw [stops] at passes
    exact Bool.false_ne_true passes
  exact ⟨by decide +kernel, by decide, within,
    raised_limit_is_harmless .standard (by decide) "main.brie" nestedCalls .initial within⟩

end CallTyping
