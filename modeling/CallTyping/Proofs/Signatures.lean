/-
This file proves when the calls that are recorded for a closure differ in their
arguments. A body is entered only when its arguments have another structure than
all that were recorded before. What is recorded are handles, though, and when they
grow afterwards two lists of arguments may come to have the same structure. They
stay different as long as nothing grows to which they lead. There are programs in
which the same body ends up recorded twice for the same arguments.
-/

import CallTyping.Proofs.Completion
import CallTyping.Proofs.Looking
import CallTyping.Proofs.Pending

namespace CallTyping

/-! ### Types that do not grow -/

namespace Heap

/-- The number of fields or tags of a type. -/
def extent (heap : Heap) : Ty → Nat
  | .object id => (heap.fields id).size
  | .variant id => (heap.tags id).size
  | _ => 0

/-- Whatever these types lead to has as many parts on the later heap as on this one. -/
def Lasts (now later : Heap) (types : List Ty) : Prop :=
  ∀ root ∈ types, ∀ path ty, now.along path root = some ty → later.extent ty = now.extent ty

variable {now later : Heap}

/-- Maps that only got longer are the same when they have the same size. -/
theorem eq_of_longer {α : Type} {first second : OrderedMap String α}
    (longer : first.entries <+: second.entries) (sizes : second.size = first.size) :
    second = first :=
  OrderedMap.ext (longer.eq_of_length sizes.symm).symm

theorem Grows.part?_eq (grown : now.Grows later) {ty : Ty}
    (sizes : later.extent ty = now.extent ty) (turn : Turn) :
    later.part? ty turn = now.part? ty turn := by
  cases ty with
  | object id =>
    have same := eq_of_longer (grown.fields id) sizes
    cases turn with
    | field name => exact congrArg (OrderedMap.get? · name) same
    | _ => rfl
  | variant id =>
    have same := eq_of_longer (grown.tags id) sizes
    cases turn with
    | argument tag position =>
      exact congrArg (fun tags : Tags => (tags.get? tag).bind (·[position]?)) same
    | _ => rfl
  | _ => cases turn <;> rfl

theorem Grows.surface_eq (grown : now.Grows later) {ty : Ty}
    (sizes : later.extent ty = now.extent ty) : later.surface ty = now.surface ty := by
  cases ty with
  | object id =>
    exact congrArg (fun fields : Fields => Surface.object (· ∈ fields.keys))
      (eq_of_longer (grown.fields id) sizes)
  | variant id =>
    exact congrArg (fun tags : Tags => Surface.variant fun tag => (tags.get? tag).map List.length)
      (eq_of_longer (grown.tags id) sizes)
  | _ => rfl

theorem Grows.along_eq (grown : now.Grows later) (path : List Turn) {root : Ty}
    (sizes : ∀ path ty, now.along path root = some ty → later.extent ty = now.extent ty) :
    later.along path root = now.along path root := by
  induction path generalizing root with
  | nil => rfl
  | cons turn rest inductionHypothesis =>
    rw [along, along, grown.part?_eq (sizes [] root rfl)]
    cases next : now.part? root turn with
    | none => rfl
    | some part =>
      refine inductionHypothesis fun path ty reached => sizes (turn :: path) ty ?_
      rw [along, next]
      exact reached

/-- What is seen at the end of a path stays the same if nothing on the way grows. -/
theorem Grows.seen_eq (grown : now.Grows later) (path : List Turn) {root : Ty}
    (sizes : ∀ path ty, now.along path root = some ty → later.extent ty = now.extent ty) :
    (later.along path root).map later.surface = (now.along path root).map now.surface := by
  rw [grown.along_eq path sizes]
  cases reached : now.along path root with
  | none => rfl
  | some ty => exact congrArg some (grown.surface_eq (sizes path ty reached))

/-- What these types lead to looks the same on both heaps. -/
def Shows (now later : Heap) (types : List Ty) : Prop :=
  ∀ root ∈ types, ∀ path,
    (later.along path root).map later.surface = (now.along path root).map now.surface

namespace Shows

variable {left right : Ty} {lefts rights : List Ty}

theorem head (shown : now.Shows later (left :: lefts)) (path : List Turn) :
    (later.along path left).map later.surface = (now.along path left).map now.surface :=
  shown left List.mem_cons_self path

theorem tail (shown : now.Shows later (left :: lefts)) : now.Shows later lefts :=
  fun root member => shown root (List.mem_cons_of_mem _ member)

/-- Lists of types that look the same keep to be equal or to be different. -/
theorem sameArguments_eq (shown : now.Shows later lefts) (others : now.Shows later rights) :
    later.sameArguments lefts rights = now.sameArguments lefts rights := by
  induction lefts generalizing rights with
  | nil => cases rights <;> rfl
  | cons left lefts inductionHypothesis =>
    cases rights with
    | nil => rfl
    | cons right rights =>
      have same : later.same left right = now.same left right := by
        rw [Bool.eq_iff_iff, same_iff, same_iff]
        exact forall_congr' fun path => by rw [shown.head path, others.head path]
      rw [sameArguments, sameArguments, same, inductionHypothesis shown.tail others.tail]

end Shows

/-- Lists of types that do not grow keep to be the same or to be different. -/
theorem Grows.sameArguments_eq (grown : now.Grows later) {lefts rights : List Ty}
    (lasts : now.Lasts later lefts) (others : now.Lasts later rights) :
    later.sameArguments lefts rights = now.sameArguments lefts rights :=
  Shows.sameArguments_eq (fun root member path => grown.seen_eq path (lasts root member))
    fun root member path => grown.seen_eq path (others root member)

end Heap

/-! ### Bodies that are entered -/

/-- When a body begins to run, no list of arguments that was recorded before has the structure of
its own. -/
def Moment.isNew (moment : Moment) : Bool :=
  match moment.phase, moment.stack with
  | .entering, .body id args :: _ =>
    (moment.checker.cache.of id).dropLast.all fun entry =>
      !moment.checker.heap.sameArguments entry.args args
  | _, _ => true

/-- When a body begins to run, nothing to which the arguments of its closure lead, as they are
recorded by then, has more parts on the last heap. -/
def Moment.Steady (last : Heap) (moment : Moment) : Prop :=
  match moment.phase, moment.stack with
  | .entering, .body id _ :: _ =>
    ∀ entry ∈ moment.checker.cache.of id, moment.checker.heap.Lasts last entry.args
  | _, _ => True

namespace Cache

variable {cache : Cache} {heap : Heap} {id : ClosureId} {args : List Ty}

theorem of_mark (cache : Cache) (closure id : ClosureId) (args : List Ty) :
    (cache.mark closure args).of id =
      if id = closure then cache.of closure ++ [⟨args, .running⟩] else cache.of id :=
  of_insert cache closure id _

theorem different_of_new (new : cache.recalled? heap id args = none) :
    ∀ entry ∈ cache.of id, heap.sameArguments entry.args args = false := fun entry member =>
  Bool.eq_false_iff.mpr (List.find?_eq_none.mp new entry member)

/-- The first marker that a call finds is its own, if it was new. -/
theorem replaceFirst_append (change : Specialization → List Specialization)
    {wanted : Specialization → Bool} {entry : Specialization} (found : wanted entry = true)
    {entries : List Specialization} (none : ∀ other ∈ entries, wanted other = false) :
    replaceFirst wanted change (entries ++ [entry]) = entries ++ change entry := by
  induction entries with
  | nil => simp [replaceFirst, found]
  | cons other rest inductionHypothesis =>
    rw [List.cons_append, replaceFirst, none other List.mem_cons_self, if_neg Bool.false_ne_true,
      inductionHypothesis fun entry member => none entry (List.mem_cons_of_mem _ member),
      List.cons_append]

/-- A new call that is given up at once leaves the record as it was. -/
theorem of_abandon_mark (new : cache.recalled? heap id args = none) (other : ClosureId) :
    ((cache.mark id args).abandon heap id args).of other = cache.of other := by
  unfold abandon
  rw [of_modify _ _ _ rfl, of_mark]
  split
  next same =>
    have marker : isMarker heap args ⟨args, .running⟩ = true := heap.sameArguments_self args
    rw [replaceFirst_append _ marker fun entry member => ?_, List.append_nil, same]
    rw [isMarker, different_of_new new entry member, Bool.and_false]
  next => rfl

/-- A result takes the place of a marker with the same arguments. -/
theorem args_finish (cache : Cache) (heap : Heap) (id : ClosureId) (args : List Ty) (result : Ty)
    (body : Program) (other : ClosureId) :
    ((cache.finish heap id args result body).of other).map Specialization.args =
      (cache.of other).map Specialization.args := by
  have kept (wanted : Specialization → Bool) (entries : List Specialization) :
      (replaceFirst wanted (fun entry => [{ entry with progress := .done result body }])
        entries).map Specialization.args = entries.map Specialization.args := by
    induction entries with
    | nil => rfl
    | cons entry rest inductionHypothesis =>
      rw [replaceFirst]
      split
      · rfl
      · rw [List.map_cons, List.map_cons, inductionHypothesis]
  unfold finish
  rw [of_modify _ _ _ rfl]
  split
  · exact kept _ _
  · rfl

theorem args_abandon (cache : Cache) (heap : Heap) (id : ClosureId) (args : List Ty)
    (other : ClosureId) :
    (((cache.abandon heap id args).of other).map Specialization.args).Sublist
      ((cache.of other).map Specialization.args) := by
  have fewer (wanted : Specialization → Bool) (entries : List Specialization) :
      (replaceFirst wanted (fun _ => []) entries).Sublist entries := by
    induction entries with
    | nil => exact .slnil
    | cons entry rest inductionHypothesis =>
      rw [replaceFirst]
      split
      · exact List.sublist_cons_self entry rest
      · exact inductionHypothesis.cons_cons entry
  unfold abandon
  rw [of_modify _ _ _ rfl]
  split
  · exact (fewer _ _).map _
  · exact .refl _

end Cache

/-! ### Every body that is entered is new -/

theorem isNew_beginBody {checker : Checker} {id : ClosureId} {args : List Ty}
    (new : checker.cache.recalled? checker.heap id args = none) (stack : List Occasion)
    (closure : Closure) :
    Moment.isNew ⟨.body id args :: stack, .entering, checker.beginBody id closure args⟩ = true := by
  show ((checker.cache.mark id args).of id).dropLast.all _ = true
  rw [Cache.of_mark, if_pos rfl, List.dropLast_concat, List.all_eq_true]
  intro entry member
  exact congrArg not (Cache.different_of_new new entry member)

/-- A run is never stopped because its body, or one that it enters, is not new. -/
theorem runWatched_new (setup : Setup) (levels : Nat) (stack : List Occasion)
    (occasion : Occasion) (program : Program) (checker : Checker)
    (new : Moment.isNew ⟨occasion :: stack, .entering, checker⟩ = true) :
    runWatched setup (·.isNew = true) levels stack occasion program checker =
      runWithin setup levels occasion program checker := by
  induction levels generalizing stack occasion program checker with
  | zero => rfl
  | succ levels inductionHypothesis =>
    have cuts : Cuts (fun _ _ _ => True) (fun _ => True) (fun _ _ => False) setup
        (runWatched setup (·.isNew = true) levels (occasion :: stack)) (runWithin setup levels) :=
      { kept := by constructor <;> intros <;> trivial
        stays := fun _ _ => trivial
        enters := fun _ => trivial
        before := fun _ strayed => strayed
        after := fun strayed _ => strayed
        scope := fun strayed => strayed
        call := fun span id args _ => .inl <| runClosure_agrees setup span fun new _ _ _ =>
          inductionHypothesis _ _ _ _ (isNew_beginBody new _ _)
        load := fun span file _ _ _ => .inl <| loadFile_agrees setup span fun _ _ =>
          inductionHypothesis _ _ _ _ rfl }
    have same := (cuts.runStatements occasion program checker trivial).resolve_right
      fun strayed => strayed.2
    have ends := runWatched_ends setup (·.isNew = true) levels stack occasion program checker
    rw [runWithin, ← same]
    generalize runWatched setup (·.isNew = true) (levels + 1) stack occasion program checker =
      outcome at ends ⊢
    cases ends with
    | passed => rfl
    | refusedLeaving _ refused => exact absurd rfl refused
    | refusedEntering refused => exact absurd new refused

theorem always_new (past : List Request) (request : Request) :
    Always (·.isNew = true) request (Checker.after past) := by
  have closed := after_closed past request.file
  have ends := check_ends past request
  rw [checkFile, checkWith_closed _ _ _ _ closed] at ends
  rwa [Always, checkWatched, checkWith_closed _ _ _ _ closed, runWatched_new _ _ _ _ _ _ rfl]

/-! ### Bodies that stay different -/

/-- No two calls of a closure are recorded with arguments of the same structure. -/
def Cache.Apart (cache : Cache) (heap : Heap) : Prop :=
  ∀ id, ((cache.of id).map Specialization.args).Pairwise fun first second =>
    heap.sameArguments first second = false

/-- The heap grows, and if it comes to the last one then recorded calls that were different there
are joined by different ones only, unless the pass is given up. -/
structure Separates (last : Heap) (before : Checker) (stop : Option Stop) (after : Checker) :
    Prop where
  grown : before.heap.Grows after.heap
  apart : stop ≠ some .exhausted → after.heap.Grows last → before.cache.Apart last →
    after.cache.Apart last

namespace Separates

variable {last : Heap}

theorem trans {first second third : Checker} {stop : Option Stop}
    (left : Separates last first none second) (right : Separates last second stop third) :
    Separates last first stop third :=
  ⟨left.grown.trans right.grown, fun ends reaches apart =>
    right.apart ends reaches (left.apart nofun (right.grown.trans reaches) apart)⟩

theorem of_cache {before after : Checker} {stop : Option Stop}
    (grown : before.heap.Grows after.heap) (same : ∀ id, after.cache.of id = before.cache.of id) :
    Separates last before stop after :=
  ⟨grown, fun _ _ apart id => same id ▸ apart id⟩

end Separates

/-- A new call whose arguments, like those recorded before, do not grow any more. -/
theorem apart_mark {last : Heap} {checker : Checker} {id : ClosureId} {args : List Ty}
    (apart : checker.cache.Apart last)
    (new : checker.cache.recalled? checker.heap id args = none)
    (grown : checker.heap.Grows last)
    (steady : ∀ entry ∈ (checker.cache.mark id args).of id, checker.heap.Lasts last entry.args) :
    (checker.cache.mark id args).Apart last := by
  intro other
  rw [Cache.of_mark] at steady ⊢
  rw [if_pos rfl] at steady
  split
  next same =>
    rw [List.map_append, List.pairwise_append]
    refine ⟨apart id, List.pairwise_singleton _ _, fun first member second chosen => ?_⟩
    obtain ⟨entry, recorded, rfl⟩ := List.mem_map.mp member
    rw [List.mem_singleton.mp chosen, grown.sameArguments_eq
      (steady entry (List.mem_append_left _ recorded))
      (steady ⟨args, .running⟩ (List.mem_append_right _ (List.mem_singleton.mpr rfl)))]
    exact Cache.different_of_new new entry recorded
  next => exact apart other

/-- All that is known about a watched run when it ends. -/
structure EndsApart (last : Heap) (stack : List Occasion) (before : Checker)
    (ran : (Program × Except Stop (List Ty)) × Checker) : Prop where
  separates : Separates last before (stopOf ran.1.2) ran.2
  steady : stopOf ran.1.2 ≠ some .exhausted → Moment.Steady last ⟨stack, .entering, before⟩

section

variable {last : Heap} {stack : List Occasion} {setup : Setup} {run : Runner}

theorem call_separates (runs : ∀ occasion program checker,
      EndsApart last (occasion :: stack) checker (run occasion program checker))
    {span : Span} {id : ClosureId} {args : List Ty} {checker : Checker}
    {outcome : Except Stop Ty × Checker}
    (ends : CallEnds setup run span id args checker outcome) :
    Separates last checker (stopOf outcome.1) outcome.2 := by
  cases ends with
  | known | running => exact .of_cache (.refl _) fun _ => rfl
  | tooDeep new | unknown new => exact .of_cache (.refl _) (Cache.of_abandon_mark new)
  | typed closure body types after new _ _ ran =>
    have inner := runs (.body id args) closure.body (checker.beginBody id closure args)
    rw [ran] at inner
    refine ⟨inner.separates.grown, fun _ reaches apart => ?_⟩
    have marked := apart_mark apart new (inner.separates.grown.trans reaches) (inner.steady nofun)
    intro other
    have ended := inner.separates.apart nofun reaches marked other
    rwa [← Cache.args_finish after.cache after.heap id args (Ty.ofBody types) body] at ended
  | failed closure body stop after new _ _ ran =>
    have inner := runs (.body id args) closure.body (checker.beginBody id closure args)
    rw [ran] at inner
    refine ⟨inner.separates.grown, fun finished reaches apart => ?_⟩
    have marked := apart_mark apart new (inner.separates.grown.trans reaches)
      (inner.steady finished)
    intro other
    exact (inner.separates.apart finished reaches marked other).sublist
      (Cache.args_abandon after.cache after.heap id args other)

theorem separates_flow (setup : Setup) (runs : ∀ occasion program checker,
      EndsApart last (occasion :: stack) checker (run occasion program checker)) :
    Flow (Separates last) setup run where
  still _ := .of_cache (.refl _) fun _ => rfl
  trans := .trans
  fault _ _ _ _ := .of_cache (.refl _) fun _ => rfl
  record _ _ := .of_cache (.refl _) fun _ => rfl
  inlay _ _ _ := .of_cache (.refl _) fun _ => rfl
  bind _ _ _ _ := .of_cache (.refl _) fun _ => rfl
  define _ _ _ _ := .of_cache (.refl _) fun _ => rfl
  block _ _ _ _ := .of_cache (.refl _) fun _ => rfl
  join _ _ _ _ _ joined := .of_cache (Heap.join_grows joined) fun _ => rfl
  object checker fields := .of_cache (checker.heap.newObject_grows fields) fun _ => rfl
  variant checker tags := .of_cache (checker.heap.newVariant_grows tags) fun _ => rfl
  addField checker id name ty new :=
    .of_cache (checker.heap.setField_grows id name ty new) fun _ => rfl
  scope separates := ⟨separates.grown, separates.apart⟩
  call ends := call_separates runs ends
  load {checker _ file _} _ _ ends := by
    cases ends with
    | missing => exact .of_cache (.refl _) fun _ => rfl
    | checked program typed types after _ ran | failed program typed stop after _ ran =>
      have inner := (runs (.file file) program (checker.beginFile file)).separates
      rw [ran] at inner
      exact ⟨inner.grown, inner.apart⟩

/-- Runs keep recorded calls different if no arguments grow after their body was entered. -/
theorem runWatched_apart {allowed : Moment → Prop} [DecidablePred allowed]
    (fine : ∀ moment, allowed moment → moment.Steady last)
    (setup : Setup) (levels : Nat) (stack : List Occasion) (occasion : Occasion)
    (program : Program) (checker : Checker) :
    EndsApart last (occasion :: stack) checker
      (runWatched setup allowed levels stack occasion program checker) := by
  induction levels generalizing stack occasion program checker with
  | zero => exact ⟨⟨.refl _, fun ends => absurd rfl ends⟩, fun ends => absurd rfl ends⟩
  | succ levels inductionHypothesis =>
    have visited := (separates_flow setup (inductionHypothesis (occasion :: stack))).runStatements
      occasion program checker
    have ends := runWatched_ends setup allowed levels stack occasion program checker
    generalize runWatched setup allowed (levels + 1) stack occasion program checker = outcome
      at ends ⊢
    cases ends with
    | passed enters => exact ⟨visited, fun _ => fine _ enters⟩
    | refusedLeaving =>
      exact ⟨⟨visited.grown, fun ends => absurd rfl ends⟩, fun ends => absurd rfl ends⟩
    | refusedEntering =>
      exact ⟨⟨.refl _, fun ends => absurd rfl ends⟩, fun ends => absurd rfl ends⟩

end

/-! ### Sequences of checks -/

/-- A check in which no recorded arguments grow until the last heap. -/
theorem checked_separates {last : Heap} {allowed : Moment → Prop} [DecidablePred allowed]
    (fine : ∀ moment, allowed moment → moment.Steady last) {past : List Request}
    {request : Request} (always : Always allowed request (Checker.after past)) :
    Separates last (Checker.after past) none (Checker.after (past ++ [request])) := by
  have finished := check_ends past request
  rw [after_append, Checker.checked]
  rw [← checkWatched_eq allowed always] at finished ⊢
  rw [checkWatched, checkWith_closed _ _ _ _ (after_closed past request.file)] at finished ⊢
  have inner := (runWatched_apart fine request.setup
    ((Checker.after past).headroom request.setup + 1) [] (.file request.file) request.program
    ((Checker.after past).enterFile request.file)).separates
  refine ⟨inner.grown, fun _ => inner.apart fun gaveUp => finished ?_⟩
  dsimp only
  rw [stopOf_eq_some.mp gaveUp]
  rfl

/-- Whenever a body is entered, no arguments recorded for its closure before have the structure of
its own. If in a sequence of checks nothing to which the arguments of a closure lead gets any more
parts once a body of it is entered, then after the sequence no two calls of a closure are recorded
with arguments of the same structure. -/
theorem recorded_calls_apart (requests : List Request) :
    (∀ past request, past ++ [request] <+: requests →
      Always (·.isNew = true) request (Checker.after past)) ∧
    ∀ (allowed : Moment → Prop) [DecidablePred allowed],
      let last := Checker.after requests
      (∀ moment, allowed moment → moment.Steady last.heap) →
      (∀ past request, past ++ [request] <+: requests →
        Always allowed request (Checker.after past)) →
      ∀ id, (last.cache.of id).Pairwise fun first second =>
        last.heap.sameArguments first.args second.args = false := by
  refine ⟨fun past request _ => always_new past request, fun allowed _ fine always id => ?_⟩
  suffices ∀ past, past <+: requests →
      Separates (Checker.after requests).heap .initial none (Checker.after past) by
    have apart := (this requests List.prefix_rfl).apart nofun (.refl _) (fun _ => .nil) id
    rwa [List.pairwise_map] at apart
  intro past prior
  induction past using List.reverseRecOn with
  | nil => exact .of_cache (.refl _) fun _ => rfl
  | append_singleton past request inductionHypothesis =>
    exact (inductionHypothesis ((List.prefix_append _ _).trans prior)).trans
      (checked_separates fine (always past request prior))

/-! ### Arguments that grow, and arguments that do not -/

/-- A function that does not look at its argument, followed by other statements. -/
def constantCalls (rest : List Node) : Request :=
  ⟨.standard, "main.brie", .untyped .origin (.define "f" (.untyped .origin (.block ["p"] [one]))) ::
    rest⟩
where
  one : Node := .untyped .origin (.literal (.integer 1))
  name (text : String) : Node := .untyped .origin (.ident text)
  call (arg : Node) : Node := .untyped .origin (.call [name "f", arg])
  object (fields : List Field) : Node := .untyped .origin (.object fields)

/-- Two calls with an object that has no fields when it is passed, and gets one afterwards. -/
def grownTwice : Request :=
  constantCalls (grow "a" ++ grow "b")
where
  grow (name : String) : List Node :=
    [.untyped .origin (.define name (constantCalls.object [])),
     constantCalls.call (constantCalls.name name),
     .untyped .origin (.update (.untyped .origin (.dot (constantCalls.name name) "x"))
      constantCalls.one)]

/-- The body is typed for an object without fields twice, and both calls are recorded with an
object that has a field by then. -/
theorem grownTwice_recorded_twice :
    let last := Checker.after [grownTwice]
    (checkFile grownTwice.setup grownTwice.file grownTwice.program .initial).1.2.isOk = true ∧
      (last.cache.of ⟨0⟩).length = 2 ∧
      ¬∀ id, (last.cache.of id).Pairwise fun first second =>
        last.heap.sameArguments first.args second.args = false :=
  ⟨by decide +kernel, by decide +kernel, fun apart => absurd (apart ⟨0⟩) (by decide +kernel)⟩

/-- Whether a type has no parts. -/
def Ty.isPlain : Ty → Bool
  | .object _ | .variant _ | .function _ _ _ => false
  | .unit | .bool | .integer | .float | .string => true

namespace Heap

/-- Whether a type has no parts, or is an object of such types that gets no more fields. -/
def fixes (now later : Heap) : Ty → Bool
  | .object id =>
    (later.fields id).size = (now.fields id).size && (now.fields id).entries.all (·.2.isPlain)
  | ty => ty.isPlain

theorem extent_along_of_plain {now later : Heap} {root ty : Ty} (plain : root.isPlain = true)
    {path : List Turn} (reached : now.along path root = some ty) :
    later.extent ty = now.extent ty := by
  cases path with
  | nil =>
    cases reached
    cases root <;> first | rfl | cases plain
  | cons turn rest =>
    cases root with
    | object | variant | function => cases plain
    | _ => cases turn <;> cases reached

theorem lasts_of_fixes {now later : Heap} {types : List Ty}
    (fixed : types.all (now.fixes later) = true) : now.Lasts later types := by
  intro root member path ty reached
  have fixedRoot := List.all_eq_true.mp fixed root member
  cases root with
  | object id =>
    obtain ⟨sizes, plain⟩ := Bool.and_eq_true_iff.mp fixedRoot
    rcases path with _ | ⟨name | _ | _, rest⟩
    · cases reached
      exact of_decide_eq_true sizes
    · obtain ⟨part, found, further⟩ := Option.bind_eq_some_iff.mp reached
      exact extent_along_of_plain
        (List.all_eq_true.mp plain (name, part) (OrderedMap.mem_of_find found)) further
    · cases reached
    · cases reached
  | variant | function => cases fixedRoot
  | _ => exact extent_along_of_plain rfl reached

end Heap

/-- When a body begins to run, the recorded arguments of its closure are such types. -/
def Moment.fixed (last : Heap) (moment : Moment) : Bool :=
  match moment.phase, moment.stack with
  | .entering, .body id _ :: _ =>
    (moment.checker.cache.of id).all fun entry => entry.args.all (moment.checker.heap.fixes last)
  | _, _ => true

theorem Moment.steady_of_fixed {last : Heap} {moment : Moment}
    (fixed : moment.fixed last = true) : moment.Steady last := by
  obtain ⟨_ | ⟨_ | ⟨id, args⟩, outer⟩, _ | _, checker⟩ := moment
  case cons.body.entering =>
    exact fun entry member => Heap.lasts_of_fixes (List.all_eq_true.mp fixed entry member)
  all_goals trivial

/-- Calls with objects whose fields differ, and with one that has the structure of the first. -/
def differentObjects : Request :=
  constantCalls [call (.integer 1), call (.bool true), call (.integer 2)]
where
  call (value : Literal) : Node :=
    constantCalls.call (constantCalls.object [.mk "x" (.untyped .origin (.literal value))])

/-- Nothing grows after these calls, and two different ones are recorded. -/
theorem differentObjects_apart :
    let last := Checker.after [differentObjects]
    (last.cache.of ⟨0⟩).length = 2 ∧
      (last.cache.of ⟨0⟩).Pairwise fun first second =>
        last.heap.sameArguments first.args second.args = false := by
  refine ⟨by decide +kernel, ?_⟩
  refine (recorded_calls_apart [differentObjects]).2 (·.fixed _ = true)
    (fun _ => Moment.steady_of_fixed) (fun past request prior => ?_) ⟨0⟩
  obtain ⟨rfl, rfl⟩ : past = [] ∧ request = differentObjects := by
    simpa [List.append_eq_cons_iff, List.prefix_cons_iff] using prior
  decide +kernel

end CallTyping
