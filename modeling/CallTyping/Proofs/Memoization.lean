/-
This file compares what the record of calls tells with what a fresh typing of the
body would give. An answer of the record is always the result of an earlier typing,
for arguments that had the structure of the recorded ones. But the body can read
more than its arguments, and what it reads can have changed in between: names get
other types, and objects and variants grow. So a fresh typing need not agree. It
does agree for bodies that only look at what they are given, if the names from
outside stand for types of the same structure as before.
-/

import CallTyping.Proofs.Looking
import CallTyping.Proofs.Recall

namespace CallTyping

/-! ### Typing a call again -/

/-- The record without all that it tells about a call. -/
def Cache.forget (cache : Cache) (heap : Heap) (closure : ClosureId) (args : List Ty) : Cache :=
  ⟨cache.entries.modify closure (·.filter fun entry => !heap.sameArguments entry.args args)⟩

/-- The state in which nothing is known about a call. -/
def Checker.forgetCall (checker : Checker) (id : ClosureId) (args : List Ty) : Checker :=
  { checker with cache := checker.cache.forget checker.heap id args }

/-- Whether a call passes in the state in which nothing is known about it, with a type of the
structure of `result`. -/
def retypesTo (setup : Setup) (checker : Checker) (id : ClosureId) (args : List Ty)
    (result : Ty) : Bool :=
  match (runClosure setup (runWithin setup (checker.headroom setup + 1)) .origin id args).outcome
    (checker.forgetCall id args) with
  | (.ok ty, after) => after.heap.same ty result
  | (.error _, _) => false

theorem recalled?_forgetCall (checker : Checker) (id : ClosureId) (args : List Ty) :
    (checker.forgetCall id args).cache.recalled? checker.heap id args = none := by
  refine List.find?_eq_none.mpr fun entry member => ?_
  rw [Checker.forgetCall, Cache.forget, Cache.of_modify _ _ _ rfl, if_pos rfl,
    List.mem_filter] at member
  simpa using member.2

/-! ### Typings of bodies that only look -/

theorem ofBody_alike {heap : Heap} {types types' : List Ty}
    (alike : List.Forall₂ heap.Indistinct types types') :
    heap.Indistinct (Ty.ofBody types) (Ty.ofBody types') := by
  induction alike with
  | nil => exact fun _ => rfl
  | @cons ty ty' rest rest' same alike inductionHypothesis =>
    cases alike with
    | nil => exact same
    | cons _ _ =>
      simp only [Ty.ofBody, List.getLast?_cons_cons] at inductionHypothesis ⊢
      exact inductionHypothesis

/-- The runs of a body that only looks go alike. -/
theorem Mimics.runWithin (heap : Heap) {closure : Closure} {outside : List String}
    (looks : closure.looks outside = true) (setup : Setup) (levels levels' : Nat) (id : ClosureId)
    (args args' : List Ty) : ∃ later,
      Mimics heap (closure.params.reverse ++ outside) later
        (Visit.outcome (CallTyping.runWithin setup levels (.body id args) closure.body))
        (Visit.outcome (CallTyping.runWithin setup (levels' + 1) (.body id args') closure.body))
        (List.Forall₂ heap.Indistinct) := by
  obtain ⟨later, known⟩ := Option.isSome_iff_exists.mp looks
  refine ⟨later, ?_⟩
  cases levels with
  | zero => rintro checker other echoes _ _ ⟨⟩
  | succ levels =>
    intro checker other echoes types after ran
    obtain ⟨types', after', ran', ⟨alike, -⟩, rest⟩ :=
      visitNodes closure.body known checker other echoes types after ran
    exact ⟨types', after', ran', alike, rest⟩

namespace Typing

variable {setup : Setup} {id : ClosureId} {typing : Typing setup id} {checker : Checker}
  {stored args : List Ty} {result : Ty} {outside : List String}

/-- The names from outside stand for types of the same structure as when the typing began. -/
def Steady (typing : Typing setup id) (checker : Checker) (outside : List String) : Prop :=
  ∀ name ∈ outside, ∃ before now, typing.before.outside typing.closure name = some before ∧
    checker.outside typing.closure name = some now ∧ checker.heap.same before now = true

/-- A typing that only looks leaves the heap and the record as they are. -/
theorem still (typing : Typing setup id) (steady : typing.Steady checker outside)
    (looks : typing.closure.looks outside = true)
    (saturated : typing.args.length = typing.closure.params.length) :
    Still (typing.before.beginBody id typing.closure typing.args) typing.after := by
  -- The second pass is the same one again.
  have echoes : Echoes typing.before.heap (typing.closure.params.reverse ++ outside)
      (typing.before.beginBody id typing.closure typing.args)
      (typing.before.beginBody id typing.closure typing.args) := by
    refine .beginBody (.refl _) (fun name member => ?_)
      (List.forall₂_same.mpr fun _ _ _ => rfl) saturated id
    obtain ⟨before, _, stood, -⟩ := steady name member
    exact ⟨before, before, stood, stood, fun _ => rfl⟩
  obtain ⟨later, mimics⟩ :=
    Mimics.runWithin typing.before.heap looks setup typing.levels 0 id typing.args typing.args
  obtain ⟨_, _, -, -, -, still, -⟩ := mimics _ _ echoes typing.types typing.after
    (by rw [Visit.outcome, typing.ran])
  exact still

/-- The marker that such a typing finds when it ends is the one that was set when it began. -/
theorem Backs.stored_eq (backs : typing.Backs checker stored result)
    (still : Still (typing.before.beginBody id typing.closure typing.args) typing.after) :
    stored = typing.args := by
  obtain ⟨marker, member, found, rfl⟩ := backs.marker
  rw [still.cache] at member
  rw [still.heap] at found
  rcases Cache.mem_mark member with old | ⟨-, rfl⟩
  · -- By an older entry with these arguments the call would have been recalled.
    have alike := (Bool.and_eq_true_iff.mp found).2
    exact absurd alike (List.find?_eq_none.mp typing.isNew.new marker old)
  · rfl

/-- Where a typing that only looks backs an answer, a call of which nothing is known gets an answer
of the same structure. -/
theorem Backs.retypes (backs : typing.Backs checker stored result)
    (recorded : checker.heap.sameArguments stored args = true)
    (steady : typing.Steady checker outside) (looks : typing.closure.looks outside = true)
    (saturated : args.length = typing.closure.params.length)
    (shallow : checker.callDepth < setup.settings.depthLimit) :
    retypesTo setup checker id args result = true := by
  have lengths := ((Heap.sameArguments_iff _ _ _).mp backs.sameArguments).length_eq
  have alike := (Heap.sameArguments_iff _ _ _).mp recorded
  -- First that the recorded arguments are those of the typing, since only the structure that these
  -- have now is known.
  have still := typing.still steady looks
    (lengths.symm.trans (alike.length_eq.trans saturated))
  obtain rfl := backs.stored_eq still
  have grown : typing.before.heap.Grows (checker.forgetCall id args).heap :=
    still.heap ▸ backs.heap
  have echoes : Echoes (checker.forgetCall id args).heap
      (typing.closure.params.reverse ++ outside)
      (typing.before.beginBody id typing.closure typing.args)
      ((checker.forgetCall id args).beginBody id typing.closure args) := by
    refine .beginBody grown (fun name member => ?_) alike (alike.length_eq.trans saturated) id
    obtain ⟨before, now, stood, stands, same⟩ := steady name member
    exact ⟨before, now, stood, stands, (Heap.same_iff _ _ _).mp same⟩
  obtain ⟨later, mimics⟩ := Mimics.runWithin checker.heap looks setup typing.levels
    (checker.headroom setup) id typing.args args
  obtain ⟨types, after, ran, fine, -, -, again⟩ := mimics _ _ echoes typing.types typing.after
    (by rw [Visit.outcome, typing.ran])
  rw [retypesTo, runClosure_ran (recalled?_forgetCall checker id args) shallow backs.known]
  rcases whole : runWithin setup (checker.headroom setup + 1) (.body id args) typing.closure.body
    ((checker.forgetCall id args).beginBody id typing.closure args) with ⟨⟨body, answer⟩, reached⟩
  rw [Visit.outcome, whole] at ran
  cases ran
  show reached.heap.same (Ty.ofBody types) result = true
  rw [again.heap, backs.result]
  exact (Heap.same_iff _ _ _).mpr fun path => (ofBody_alike fine path).symm

end Typing

/-! ### Results that are outdated -/

/-- A call of a known block with all its arguments is recalled, and typing the body again does not
give a type of the recalled structure. -/
def Outdated (setup : Setup) (checker : Checker) (id : ClosureId) (args : List Ty) : Prop :=
  ∃ closure result, checker.closures.get? id = some closure ∧
    args.length = closure.params.length ∧
    (checker.cache.start checker.heap id args).1 = .known result ∧
    retypesTo setup checker id args result = false

instance (setup : Setup) (checker : Checker) (id : ClosureId) (args : List Ty) :
    Decidable (Outdated setup checker id args) :=
  match known : checker.closures.get? id,
      answered : (checker.cache.start checker.heap id args).1 with
  | some closure, .known result =>
    decidable_of_iff
      (args.length = closure.params.length ∧ retypesTo setup checker id args result = false)
      ⟨fun held => ⟨closure, result, known, held.1, answered, held.2⟩,
        fun ⟨_, _, present, saturated, recalled, differs⟩ => by
          cases known.symm.trans present
          cases answered.symm.trans recalled
          exact ⟨saturated, differs⟩⟩
  | none, _ => .isFalse fun ⟨_, _, present, _⟩ => nomatch known.symm.trans present
  | _, .running | _, .started =>
    .isFalse fun ⟨_, _, _, _, recalled, _⟩ => nomatch answered.symm.trans recalled

/-- Bodies are typed at most `depth` deep, and there is a file with one definition. -/
def shallowSetup (depth : Nat) : Setup :=
  ⟨⟨"brie", .skip, depth⟩, .standard,
    Sources.loader (.singleton "lib.brie" [.untyped .origin (.define "x"
      (.untyped .origin (.literal (.integer 1))))])⟩

/-- The state at the top level of a file after some statements. -/
def stateAfter (depth : Nat) (statements : Program) : Checker :=
  (runWithin (shallowSetup depth) 3 (.file "main.brie") statements
    (Checker.initial.enterFile "main.brie")).2

theorem stateAfter_reached (depth : Nat) (statements : Program) :
    Reached (shallowSetup depth) (stateAfter depth statements) :=
  runWithin_reached _ _ _ _ _ (.act .initial (.enterFile _ _))

/-- For each thing that a body can do apart from looking: statements after which a call of the first
block is recalled, and the arguments of this call. -/
def outdatedCalls : List (Program × List Ty) :=
  [
   -- a name from outside is given another type
   ([define "x" one, define "f" (block [] [name "x"]), call [name "f"], define "x" text], []),
   -- a match, with an argument that gets another tag
   ([define "f" (block ["p"] [select "p"]), define "v" (tag "A"), call [name "f", name "v"],
      update (name "v") (tag "B")], [.variant ⟨0⟩]),
   -- a block
   ([define "f" (block [] [block [] [one]]), call [name "f"]], []),
   -- an object that gets another field when it has been returned
   ([define "f" (block [] [.untyped .origin (.object [])]), define "r" (call [name "f"]),
      update (field "r" "y") one], []),
   -- a variant that gets another tag when it has been returned
   ([define "f" (block [] [tag "A"]), define "r" (call [name "f"]), update (name "r") (tag "B")],
      []),
   -- a required file, the object of which gets another field
   ([define "f" (block [] [.untyped .origin (.require "lib")]), define "r" (call [name "f"]),
      update (field "r" "y") one], []),
   -- a join, with an argument that gets another tag, called with another one that has no more tags
   ([define "f" (block ["p", "q"] [.untyped .origin (.ifThenElse truth [name "p"] [name "q"])]),
      define "v" (tag "A"), define "w" (tag "A"), call [name "f", name "v", name "w"],
      update (name "w") (tag "B"), define "u" (tag "A")], [.variant ⟨3⟩, .variant ⟨1⟩]),
   -- an update, likewise
   ([define "f" (block ["p", "q"] [update (name "p") (name "q")]), define "v" (tag "A"),
      define "w" (tag "A"), call [name "f", name "v", name "w"], update (name "w") (tag "B"),
      define "u" (tag "A")], [.variant ⟨3⟩, .variant ⟨1⟩]),
   -- a call, for the argument of which another call is recalled in the meantime
   ([define "f" (block ["g", "p"] [call [name "g", name "p"]]),
      define "g" (block ["p"] [select "p"]), define "v" (tag "A"), define "w" (tag "B"),
      call [name "g", name "v"], call [name "f", name "g", name "w"],
      update (name "v") (tag "B"), update (name "w") (tag "A")],
      [.function ⟨1⟩ 1 [], .variant ⟨1⟩])]
where
  one : Node := .untyped .origin (.literal (.integer 1))
  text : Node := .untyped .origin (.literal (.string ""))
  truth : Node := .untyped .origin (.literal (.bool true))
  name (text : String) : Node := .untyped .origin (.ident text)
  define (name : String) (value : Node) : Node := .untyped .origin (.define name value)
  block (params : List String) (body : Program) : Node := .untyped .origin (.block params body)
  /-- A call; without arguments it is given a unit. -/
  call (children : List Node) : Node :=
    .untyped .origin (.call (if children.length = 1 then children ++ [unit] else children))
  unit : Node := .untyped .origin (.call [])
  tag (text : String) : Node := .untyped .origin (.variant text [])
  field (object name : String) : Node :=
    .untyped .origin (.dot (.untyped .origin (.ident object)) name)
  update (target value : Node) : Node := .untyped .origin (.update target value)
  /-- A match whose arms have different types. -/
  select (scrutinee : String) : Node :=
    .untyped .origin (.caseOf (name scrutinee)
      [.mk .origin "A" [] [one], .mk .origin "B" [] [text]])

/-- A function that is called, and another one that calls it. -/
def deepCalls : Program :=
  [outdatedCalls.define "f" (outdatedCalls.block [] [outdatedCalls.one]),
   outdatedCalls.call [outdatedCalls.name "f"],
   outdatedCalls.define "g" (outdatedCalls.block [] [outdatedCalls.call [outdatedCalls.name "f"]])]

/-- The moment at which the body of the second function begins to run. -/
def deepMoment : Checker :=
  (stateAfter 1 deepCalls).beginBody ⟨1⟩
    (((stateAfter 1 deepCalls).closures.get? ⟨1⟩).getD ⟨[], [], .origin, "", ⟨⟨0⟩, []⟩⟩) []

/-- A function that reads a field of its argument, and two calls of it. -/
def lookingCalls : Program :=
  [outdatedCalls.define "f" (outdatedCalls.block ["p"]
    [outdatedCalls.define "q" (outdatedCalls.field "p" "x"), outdatedCalls.name "q"]),
   outdatedCalls.define "v" (.untyped .origin (.object [.mk "x" outdatedCalls.one])),
   outdatedCalls.call [outdatedCalls.name "f", outdatedCalls.name "v"],
   outdatedCalls.define "w" (.untyped .origin (.object [.mk "x" outdatedCalls.one]))]

/-- Whether a call is recalled with an integer. -/
def recallsInteger : Recall → Bool
  | .known .integer => true
  | _ => false

theorem eq_of_recallsInteger {answer : Recall} (told : recallsInteger answer = true) :
    answer = .known .integer := by
  unfold recallsInteger at told
  split at told
  next => rfl
  next => cases told

end CallTyping
