/-
This file proves under what condition the markers of calls go away. The marker of a
call is found again by the structure of its arguments, which the body may have
changed by then, and another call of the same closure may have taken it. Checks
leave no marker behind exactly if every body, when it ends, finds a marker for its
arguments. A body that does not find one leaves a marker for good, since nothing
takes away more markers than it sets. There are programs that do so.
-/

import CallTyping.Proofs.Pending
import CallTyping.Proofs.Termination
import Mathlib.Data.List.Induction

namespace CallTyping

/-! ### Moments at which markers are taken away -/

/-- When a body has ended, there is a marker for its arguments. -/
def Moment.findable (moment : Moment) : Bool :=
  match moment.phase, moment.stack with
  | .leaving _, .body id args :: _ => moment.checker.cache.holdsMarker moment.checker.heap id args
  | _, _ => true

/-- Why a body has stopped is of no account for its marker. -/
theorem Moment.findable_leaving (stack : List Occasion) (stop : Option Stop) (checker : Checker) :
    findable ⟨stack, .leaving stop, checker⟩ = findable ⟨stack, .leaving none, checker⟩ := by
  rcases stack with _ | ⟨_ | _, _⟩ <;> rfl

/-- Whether a call of a closure was refused because its body was recorded as being typed. -/
def Stop.refuses (id : ClosureId) : Stop → Bool
  | .fault ⟨_, _, .recursiveSpecialization other _⟩ => decide (other = id)
  | _ => false

/-- A body of a closure has ended because a call of that closure was refused. -/
def Moment.escapes (id : ClosureId) (moment : Moment) : Bool :=
  match moment.phase, moment.stack with
  | .leaving (some stop), .body other _ :: _ => decide (other = id) && stop.refuses id
  | _, _ => false

/-! ### Markers never get fewer -/

/-- No closure has fewer markers than before. -/
def Gathers (before after : Checker) : Prop :=
  ∀ id, before.cache.pending id ≤ after.cache.pending id

/-- When its body has run, a call takes away what it finds then. -/
theorem pending_endBody (caller : Checker) (id : ClosureId) (args : List Ty)
    (ran : (Program × Except Stop (List Ty)) × Checker) (other : ClosureId) :
    (caller.endBody id args ran).2.cache.pending other +
        ran.2.cache.taken ran.2.heap id args other =
      ran.2.cache.pending other := by
  obtain ⟨⟨body, stop | types⟩, after⟩ := ran
  · exact Cache.pending_abandon after.cache after.heap id other args
  · exact Cache.pending_finish after.cache after.heap id other args _ _

/-- When its file has run, a load leaves the record of calls as it is. -/
theorem cache_endFile (previous : Checker) (file : String)
    (ran : (Program × Except Stop (List Ty)) × Checker) :
    (previous.endFile file ran).2.cache = ran.2.cache := by
  obtain ⟨⟨typed, stop | types⟩, after⟩ := ran <;> rfl

/-- A call leaves all markers alone, or its body has run and it takes away what it finds then. -/
theorem pending_call {setup : Setup} {run : Runner} {span : Span} {id : ClosureId}
    {args : List Ty} {checker : Checker} {outcome : Except Stop Ty × Checker}
    (ends : CallEnds setup run span id args checker outcome) :
    (∀ other, outcome.2.cache.pending other = checker.cache.pending other) ∨
      ∃ closure visited after,
        run (.body id args) closure.body (checker.beginBody id closure args) = (visited, after) ∧
          stopOf outcome.1 = stopOf visited.2 ∧
          ∀ other, outcome.2.cache.pending other + after.cache.taken after.heap id args other =
            after.cache.pending other := by
  cases ends with
  | known | running => exact .inl fun _ => rfl
  | tooDeep | unknown => exact .inl fun other => Cache.pending_abandon_mark _ _ _ _ _
  | typed closure body types after _ _ _ ran =>
    exact .inr ⟨closure, _, after, ran, rfl,
      pending_endBody checker id args ((body, .ok types), after)⟩
  | failed closure body stop after _ _ _ ran =>
    exact .inr ⟨closure, _, after, ran, rfl,
      pending_endBody checker id args ((body, .error stop), after)⟩

theorem pending_beginBody (checker : Checker) (id other : ClosureId) (closure : Closure)
    (args : List Ty) :
    (checker.beginBody id closure args).cache.pending other =
      checker.cache.pending other + Cache.set id other :=
  Cache.pending_mark checker.cache id other args

theorem gathers_flow (setup : Setup) {run : Runner}
    (gathers : ∀ occasion program checker, Gathers checker (run occasion program checker).2) :
    Flow (fun before _ after => Gathers before after) setup run where
  still _ _ := Nat.le_refl _
  trans left right id := Nat.le_trans (left id) (right id)
  fault _ _ _ _ _ := Nat.le_refl _
  record _ _ _ := Nat.le_refl _
  inlay _ _ _ _ := Nat.le_refl _
  bind _ _ _ _ _ := Nat.le_refl _
  define _ _ _ _ _ := Nat.le_refl _
  block _ _ _ _ _ := Nat.le_refl _
  join _ _ _ _ _ _ _ := Nat.le_refl _
  object _ _ _ := Nat.le_refl _
  variant _ _ _ := Nat.le_refl _
  addField _ _ _ _ _ _ := Nat.le_refl _
  scope gathered := gathered
  call {checker _ id args _} ends other := by
    rcases pending_call ends with same | ⟨closure, visited, after, ran, -, taken⟩
    · exact Nat.le_of_eq (same other).symm
    · have inner := gathers (.body id args) closure.body (checker.beginBody id closure args) other
      rw [ran, pending_beginBody, ← taken other] at inner
      have most := after.cache.taken_le_set after.heap id other args
      exact Nat.le_of_add_le_add_right (Nat.le_trans inner (Nat.add_le_add_left most _))
  load {checker _ file _} _ _ ends other := by
    cases ends with
    | missing => exact Nat.le_refl _
    | checked program typed types after _ ran | failed program typed stop after _ ran =>
      have inner := gathers (.file file) program (checker.beginFile file) other
      rw [ran] at inner
      exact inner

theorem runWithin_gathers (setup : Setup) (levels : Nat) (occasion : Occasion)
    (program : Program) (checker : Checker) :
    Gathers checker (runWithin setup levels occasion program checker).2 := by
  induction levels generalizing occasion program checker with
  | zero => exact fun _ => Nat.le_refl _
  | succ levels inductionHypothesis =>
    exact (gathers_flow setup inductionHypothesis).runStatements occasion program checker

/-! ### Checks whose bodies find their markers -/

/-- A pass that is not given up has as many markers as before, and is not refused a call of a
guarded closure that has none. -/
structure Balanced (guarded : ClosureId → Prop) (before : Checker) (stop : Option Stop)
    (after : Checker) : Prop where
  pending : stop ≠ some .exhausted → ∀ id, after.cache.pending id = before.cache.pending id
  refused : ∀ id, guarded id → before.cache.pending id = 0 → ∀ reason ∈ stop,
    reason.refuses id = false

namespace Balanced

variable {guarded : ClosureId → Prop}

theorem refl (checker : Checker) : Balanced guarded checker none checker :=
  ⟨fun _ _ => rfl, nofun⟩

theorem trans {first second third : Checker} {stop : Option Stop}
    (left : Balanced guarded first none second) (right : Balanced guarded second stop third) :
    Balanced guarded first stop third where
  pending ends id := (right.pending ends id).trans (left.pending nofun id)
  refused id isGuarded none := right.refused id isGuarded ((left.pending nofun id).trans none)

end Balanced

/-- All that is known about a watched run when it ends. -/
structure EndsBalanced (guarded : ClosureId → Prop) (stack : List Occasion) (before : Checker)
    (ran : (Program × Except Stop (List Ty)) × Checker) : Prop where
  balanced : Balanced guarded before (stopOf ran.1.2) ran.2
  findable : stopOf ran.1.2 ≠ some .exhausted →
    Moment.findable ⟨stack, .leaving (stopOf ran.1.2), ran.2⟩ = true
  kept (id : ClosureId) : guarded id →
    Moment.escapes id ⟨stack, .leaving (stopOf ran.1.2), ran.2⟩ = false

section

variable {guarded : ClosureId → Prop} {stack : List Occasion} {setup : Setup} {run : Runner}

theorem call_pending (runs : ∀ occasion program checker,
      EndsBalanced guarded (occasion :: stack) checker (run occasion program checker))
    {span : Span} {id : ClosureId} {args : List Ty} {checker : Checker}
    {outcome : Except Stop Ty × Checker}
    (ends : CallEnds setup run span id args checker outcome)
    (finished : stopOf outcome.1 ≠ some .exhausted) (other : ClosureId) :
    outcome.2.cache.pending other = checker.cache.pending other := by
  rcases pending_call ends with same | ⟨closure, visited, after, ran, stops, taken⟩
  · exact same other
  · have inner := runs (.body id args) closure.body (checker.beginBody id closure args)
    rw [ran] at inner
    rw [stops] at finished
    have held : after.cache.holdsMarker after.heap id args = true := inner.findable finished
    have counted := taken other
    rw [inner.balanced.pending finished, pending_beginBody, Cache.taken, held, if_pos rfl]
      at counted
    exact Nat.add_right_cancel counted

theorem call_refused (runs : ∀ occasion program checker,
      EndsBalanced guarded (occasion :: stack) checker (run occasion program checker))
    {span : Span} {id : ClosureId} {args : List Ty} {checker : Checker}
    {outcome : Except Stop Ty × Checker}
    (ends : CallEnds setup run span id args checker outcome) (other : ClosureId)
    (isGuarded : guarded other) (none : checker.cache.pending other = 0) :
    ∀ reason ∈ stopOf outcome.1, reason.refuses other = false := by
  cases ends with
  | known | typed => exact nofun
  | tooDeep | unknown =>
    intro reason refused
    cases refused
    rfl
  | running stored found =>
    intro reason refused
    cases refused
    refine decide_eq_false fun same => ?_
    subst same
    exact absurd none (Nat.ne_of_gt (Cache.pending_pos found))
  | failed closure body stop after _ _ _ ran =>
    intro reason refused
    cases refused
    have inner := runs (.body id args) closure.body (checker.beginBody id closure args)
    rw [ran] at inner
    by_cases same : id = other
    · subst same
      simpa only [Moment.escapes, stopOf, decide_true, Bool.true_and] using
        inner.kept id isGuarded
    · refine inner.balanced.refused other isGuarded ?_ stop rfl
      rw [pending_beginBody, none, Cache.set, if_neg (Ne.symm same)]

theorem balanced_flow (setup : Setup) (runs : ∀ occasion program checker,
      EndsBalanced guarded (occasion :: stack) checker (run occasion program checker)) :
    Flow (Balanced guarded) setup run where
  still := .refl
  trans := .trans
  fault _ span fault rule := by
    refine ⟨fun _ _ => rfl, fun id _ _ reason refused => ?_⟩
    cases refused
    cases fault <;> first | rfl | cases rule
  record _ _ := ⟨fun _ _ => rfl, nofun⟩
  inlay _ _ _ := ⟨fun _ _ => rfl, nofun⟩
  bind _ _ _ _ := ⟨fun _ _ => rfl, nofun⟩
  define _ _ _ _ := ⟨fun _ _ => rfl, nofun⟩
  block _ _ _ _ := ⟨fun _ _ => rfl, nofun⟩
  join _ _ _ _ _ _ := ⟨fun _ _ => rfl, nofun⟩
  object _ _ := ⟨fun _ _ => rfl, nofun⟩
  variant _ _ := ⟨fun _ _ => rfl, nofun⟩
  addField _ _ _ _ _ := ⟨fun _ _ => rfl, nofun⟩
  scope balanced := ⟨balanced.pending, balanced.refused⟩
  call ends := ⟨call_pending runs ends, call_refused runs ends⟩
  load {checker _ file _} _ _ ends := by
    cases ends with
    | missing =>
      refine ⟨fun _ _ => rfl, fun _ _ _ reason refused => ?_⟩
      cases refused
      rfl
    | checked program typed types after _ ran | failed program typed stop after _ ran =>
      have inner := runs (.file file) program (checker.beginFile file)
      rw [ran] at inner
      exact ⟨inner.balanced.pending, inner.balanced.refused⟩

/-- A run that is given up is balanced, since nothing is asked of it. -/
theorem exhausted_balanced {before after : Checker} {program : Program} :
    EndsBalanced guarded stack before ((program, .error .exhausted), after) where
  balanced := ⟨fun finished => absurd rfl finished, fun _ _ _ reason refused => by
    cases refused
    rfl⟩
  findable finished := absurd rfl finished
  kept id _ := by
    rcases stack with _ | ⟨path | ⟨closure, args⟩, outer⟩
    · rfl
    · rfl
    · exact Bool.and_false _

/-- Runs are balanced if their bodies find their markers and do not let guarded refusals out. -/
theorem runWatched_balanced {allowed : Moment → Prop} [DecidablePred allowed]
    (fine : ∀ moment, allowed moment → moment.findable = true ∧
      ∀ id, guarded id → moment.escapes id = false)
    (setup : Setup) (levels : Nat) (stack : List Occasion) (occasion : Occasion)
    (program : Program) (checker : Checker) :
    EndsBalanced guarded (occasion :: stack) checker
      (runWatched setup allowed levels stack occasion program checker) := by
  induction levels generalizing stack occasion program checker with
  | zero => exact exhausted_balanced
  | succ levels inductionHypothesis =>
    have visited := (balanced_flow setup (inductionHypothesis (occasion :: stack))).runStatements
      occasion program checker
    have ends := runWatched_ends setup allowed levels stack occasion program checker
    generalize runWatched setup allowed (levels + 1) stack occasion program checker = outcome
      at ends ⊢
    cases ends with
    | passed _ leaves => exact ⟨visited, fun _ => (fine _ leaves).1, (fine _ leaves).2⟩
    | refusedLeaving | refusedEntering => exact exhausted_balanced

end

/-- A check that is not given up under such a watch is balanced. -/
theorem check_balanced (guarded : ClosureId → Prop) {allowed : Moment → Prop}
    [DecidablePred allowed]
    (fine : ∀ moment, allowed moment → moment.findable = true ∧
      ∀ id, guarded id → moment.escapes id = false)
    {request : Request} {checker : Checker} (always : Always allowed request checker) :
    let outcome := checkFile request.setup request.file request.program checker
    Balanced guarded checker (stopOf outcome.1.2) outcome.2 := by
  rw [← checkWatched_eq allowed always]
  unfold checkWatched
  cases opened : checker.isOpen request.file with
  | true =>
    rw [checkWith_open _ _ _ _ opened]
    exact ⟨fun _ _ => rfl, fun _ _ _ reason refused => by cases refused; rfl⟩
  | false =>
    rw [checkWith_closed _ _ _ _ opened]
    have inner := (runWatched_balanced fine request.setup (checker.headroom request.setup + 1) []
      (.file request.file) request.program (checker.enterFile request.file)).balanced
    dsimp only
    generalize runWatched request.setup allowed (checker.headroom request.setup + 1) []
      (.file request.file) request.program (checker.enterFile request.file) = ran at inner ⊢
    obtain ⟨⟨typed, stop | types⟩, after⟩ := ran
    · exact ⟨inner.pending, inner.refused⟩
    · exact ⟨inner.pending, inner.refused⟩

/-! ### Checks in which a body misses its marker -/

/-- No closure has fewer markers than before, and some closure has more. -/
structure Strays (before after : Checker) : Prop where
  gathers : Gathers before after
  more : ∃ id, before.cache.pending id < after.cache.pending id

/-- What a run has come to when a body in it, or the body that it ran, missed its marker. -/
def Misses (stack : List Occasion) (before after : Checker) : Prop :=
  Strays before after ∨ Moment.findable ⟨stack, .leaving none, after⟩ = false

/-- A call in which a marker was missed leaves more of them than there were. -/
theorem strays_call {stack : List Occasion} {id : ClosureId} {args : List Ty}
    {closure : Closure} {checker after final : Checker}
    (gathers : Gathers (checker.beginBody id closure args) after)
    (misses : Misses (.body id args :: stack) (checker.beginBody id closure args) after)
    (counted : ∀ other, final.cache.pending other + after.cache.taken after.heap id args other =
      after.cache.pending other) : Strays checker final := by
  have begun := fun other => pending_beginBody checker id other closure args
  have most := fun other => after.cache.taken_le_set after.heap id other args
  rcases misses with strays | missed
  · obtain ⟨other, more⟩ := strays.more
    refine ⟨fun other => ?_, other, ?_⟩
    · have := begun other; have := most other; have := counted other; have := gathers other
      omega
    · have := begun other; have := most other; have := counted other
      omega
  · have none : ∀ other, after.cache.taken after.heap id args other = 0 := by
      intro other
      have missed : after.cache.holdsMarker after.heap id args = false := missed
      rw [Cache.taken, missed, if_neg Bool.false_ne_true]
    refine ⟨fun other => ?_, id, ?_⟩
    · have := begun other; have := none other; have := counted other; have := gathers other
      omega
    · have := begun id; have := none id; have := counted id; have := gathers id
      have one : Cache.set id id = 1 := if_pos rfl
      omega

theorem strays_cuts (setup : Setup) {first second : Runner} {stack : List Occasion}
    (gathers : ∀ occasion program checker, Gathers checker (second occasion program checker).2)
    (cut : ∀ occasion program checker, Cut (Misses (occasion :: stack) checker)
      (first occasion program checker) (second occasion program checker)) :
    Cuts (fun before _ after => Gathers before after) (fun _ => True) Strays setup first
      second where
  kept := gathers_flow setup gathers
  stays _ _ := trivial
  enters _ := trivial
  before gathered strays :=
    ⟨fun id => Nat.le_trans (gathered id) (strays.gathers id),
      strays.more.imp fun id more => Nat.lt_of_le_of_lt (gathered id) more⟩
  after strays gathered :=
    ⟨fun id => Nat.le_trans (strays.gathers id) (gathered id),
      strays.more.imp fun id more => Nat.lt_of_lt_of_le more (gathered id)⟩
  scope strays := ⟨strays.gathers, strays.more⟩
  call {checker} span id args _ := runClosure_cut fun new shallow closure present => by
    refine (cut (.body id args) closure.body (checker.beginBody id closure args)).imp_right ?_
    rintro ⟨gaveUp, misses⟩
    rw [runClosure_ran new shallow present]
    exact ⟨gaveUp, strays_call (gathers _ _ _) misses (pending_endBody checker id args _)⟩
  load {checker} span file _ _ _ := loadFile_cut fun program loaded => by
    refine (cut (.file file) program (checker.beginFile file)).imp_right ?_
    rintro ⟨gaveUp, strays | missed⟩
    · rw [loadFile_ran loaded]
      refine ⟨gaveUp, fun id => ?_, strays.more.imp fun id more => ?_⟩
      · rw [cache_endFile]
        exact strays.gathers id
      · rw [cache_endFile]
        exact more
    · exact nomatch missed

/-- A run is given up at a body that misses its marker only if it leaves more markers behind. -/
theorem runWatched_misses (setup : Setup) (levels : Nat) (stack : List Occasion)
    (occasion : Occasion) (program : Program) (checker : Checker) :
    Cut (Misses (occasion :: stack) checker)
      (runWatched setup (·.findable = true) levels stack occasion program checker)
      (runWithin setup levels occasion program checker) := by
  induction levels generalizing stack occasion program checker with
  | zero => exact .inl rfl
  | succ levels inductionHypothesis =>
    have inner := (strays_cuts setup (runWithin_gathers setup levels)
      (inductionHypothesis (occasion :: stack))).runStatements occasion program checker trivial
    have ends := runWatched_ends setup (·.findable = true) levels stack occasion program checker
    generalize runWatched setup (·.findable = true) (levels + 1) stack occasion program checker =
      outcome at ends ⊢
    cases ends with
    | passed => exact inner.imp_right fun gaveUp => ⟨gaveUp.1, .inl gaveUp.2⟩
    | refusedEntering refused => exact absurd rfl refused
    | refusedLeaving _ refused =>
      refine .inr ⟨rfl, ?_⟩
      rcases inner with equal | ⟨-, strays⟩
      · rw [equal, Moment.findable_leaving] at refused
        exact .inr (Bool.eq_false_iff.mpr refused)
      · exact .inl strays

/-- A check leaves as many markers as it found exactly if all its bodies find theirs. -/
theorem check_pending_iff (past : List Request) (request : Request) :
    (∀ id, (Checker.after (past ++ [request])).cache.pending id =
        (Checker.after past).cache.pending id) ↔
      Always (·.findable = true) request (Checker.after past) := by
  have next : Checker.after (past ++ [request]) = (Checker.after past).checked request := by
    rw [Checker.after, List.foldl_append]
    rfl
  rw [next]
  constructor
  · intro settled gaveUp
    have cut : Cut (Strays (Checker.after past))
        (checkWatched (·.findable = true) request (Checker.after past))
        (checkFile request.setup request.file request.program (Checker.after past)) :=
      checkWith_cut fun closed => by
        refine (runWatched_misses _ _ _ _ _ _).imp_right ?_
        rintro ⟨gaveUp, strays | missed⟩
        · refine ⟨gaveUp, ?_⟩
          rw [checkWith_closed _ _ _ _ closed]
          exact ⟨strays.gathers, strays.more⟩
        · cases missed
    rcases cut with equal | ⟨-, strays⟩
    · rw [equal] at gaveUp
      exact check_ends past request gaveUp
    · obtain ⟨id, more⟩ := strays.more
      exact absurd (settled id) (Nat.ne_of_gt more)
  · intro always id
    have balanced := check_balanced (fun _ => False)
      (fun moment held => ⟨held, fun _ impossible => impossible.elim⟩) always
    exact balanced.pending (fun gaveUp => check_ends past request (stopOf_eq_some.mp gaveUp)) id

/-- No check of a sequence leaves a marker behind exactly if every body of every check, when it
ends, finds a marker for its arguments. Where no marker of a closure is left, and bodies find
theirs, a call of that closure is refused only inside of a body of that closure. -/
theorem no_marker_left_iff (requests : List Request) :
    ((∀ past, past <+: requests → ∀ id, ∀ entry ∈ (Checker.after past).cache.of id,
        entry.isRunning = false) ↔
      ∀ past request, past ++ [request] <+: requests →
        Always (·.findable = true) request (Checker.after past)) ∧
    ∀ past request id,
      (∀ entry ∈ (Checker.after past).cache.of id, entry.isRunning = false) →
      Always (fun moment => moment.findable = true ∧ moment.escapes id = false) request
        (Checker.after past) →
      ∀ stop, (checkFile request.setup request.file request.program
        (Checker.after past)).1.2 = .error stop → stop.refuses id = false := by
  refine ⟨⟨fun settled past request prior => ?_, fun always past => ?_⟩, ?_⟩
  · refine (check_pending_iff past request).mp fun id => ?_
    have before := settled past ((List.prefix_append _ _).trans prior) id
    have after := settled _ prior id
    rw [Cache.pending_eq_zero.mpr before, Cache.pending_eq_zero.mpr after]
  · induction past using List.reverseRecOn with
    | nil => exact fun _ _ => nofun
    | append_singleton past request inductionHypothesis =>
      intro prior id
      have before := inductionHypothesis ((List.prefix_append _ _).trans prior) id
      rw [← Cache.pending_eq_zero] at before ⊢
      rw [(check_pending_iff past request).mpr (always past request prior) id, before]
  · intro past request id settled always stop stops
    have balanced := check_balanced (· = id)
      (fun moment held => ⟨held.1, fun _ same => same ▸ held.2⟩) always
    exact balanced.refused id rfl (Cache.pending_eq_zero.mpr settled) stop
      (stopOf_eq_some.mpr stops)

/-! ### A marker that is taken by another call -/

/-- A match on the argument that calls its own function again. The inner call ends when both
arguments have the tags A and B, and so takes the marker of the outer one; then the argument of the
outer call grows on, and its end finds no marker. -/
def crossedCalls : Program :=
  [.untyped .origin (.define "f" (.untyped .origin (.block ["p"]
    [.untyped .origin (.caseOf (name "p")
      [.mk .origin "A" []
        [update "p" "B", .untyped .origin (.define "b" (tag "B")),
          .untyped .origin (.call [name "f", name "b"]), update "p" "C", one],
       .mk .origin "B" [] [update "p" "A", one]])]))),
   .untyped .origin (.call [name "f", tag "A"])]
where
  one : Node := .untyped .origin (.literal (.integer 1))
  name (text : String) : Node := .untyped .origin (.ident text)
  tag (text : String) : Node := .untyped .origin (.variant text [])
  update (target value : String) : Node := .untyped .origin (.update (name target) (tag value))

/-- A call with the tags that the argument of the inner call has at its end. -/
def laterCall : Program :=
  [.untyped .origin (.define "v" (crossedCalls.tag "A")), crossedCalls.update "v" "B",
   .untyped .origin (.call [crossedCalls.name "f", crossedCalls.name "v"])]

/-- A check may pass and leave a marker, and a later one that enters no body is refused for it. -/
theorem crossedCalls_leave_marker :
    let left := Checker.after [⟨.standard, "main.brie", crossedCalls⟩]
    (checkAlone "main.brie" crossedCalls).1.2.isOk = true ∧
      (left.cache.of ⟨0⟩).any Specialization.isRunning = true ∧
      (stopOf (checkFile .standard "main.brie" laterCall left).1.2).any (Stop.refuses ⟨0⟩) = true ∧
      Always (fun moment => moment.stack.all Occasion.isFile = true)
        ⟨.standard, "main.brie", laterCall⟩ left :=
  ⟨by decide +kernel, by decide +kernel, by decide +kernel, by decide +kernel⟩

/-! ### Markers that are found again -/

/-- The check of a match on the argument that calls its own function again, with another tag. -/
def nestedRequest : Request :=
  ⟨.standard, "main.brie", [.untyped .origin (.define "f" (.untyped .origin (.block ["p"]
    [.untyped .origin (.caseOf (crossedCalls.name "p")
      [.mk .origin "A" []
        [.untyped .origin (.call [crossedCalls.name "f", crossedCalls.tag "B"])],
       .mk .origin "B" [] [crossedCalls.one]])]))),
   .untyped .origin (.call [crossedCalls.name "f", crossedCalls.tag "A"])]⟩

/-- The check of a call with a tag that has no arm. -/
def uncoveredRequest : Request :=
  ⟨.standard, "main.brie",
    [.untyped .origin (.call [crossedCalls.name "f", crossedCalls.tag "C"])]⟩

/-- The bodies of calls with different tags find their markers, so that none is left, and another
call, whose body stops, is not refused. -/
theorem nestedRequest_leaves_none :
    (∀ id, ∀ entry ∈ (Checker.after [nestedRequest]).cache.of id, entry.isRunning = false) ∧
      (checkFile uncoveredRequest.setup uncoveredRequest.file uncoveredRequest.program
        (Checker.after [nestedRequest])).1.2.isOk = false ∧
      ∀ stop, (checkFile uncoveredRequest.setup uncoveredRequest.file uncoveredRequest.program
        (Checker.after [nestedRequest])).1.2 = .error stop → stop.refuses ⟨0⟩ = false := by
  have settled : ∀ id, ∀ entry ∈ (Checker.after [nestedRequest]).cache.of id,
      entry.isRunning = false := by
    refine (no_marker_left_iff [nestedRequest]).1.mpr (fun past request prior => ?_) _
      List.prefix_rfl
    obtain ⟨rfl, rfl⟩ : past = [] ∧ request = nestedRequest := by
      simpa [List.append_eq_cons_iff, List.prefix_cons_iff] using prior
    decide +kernel
  have always : Always (fun moment => moment.findable = true ∧ moment.escapes ⟨0⟩ = false)
      uncoveredRequest (Checker.after [nestedRequest]) := by decide +kernel
  exact ⟨settled, by decide +kernel,
    (no_marker_left_iff []).2 [nestedRequest] uncoveredRequest ⟨0⟩ (settled ⟨0⟩) always⟩

end CallTyping
