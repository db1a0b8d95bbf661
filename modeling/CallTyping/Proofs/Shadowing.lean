/-
This file proves when a definition takes effect. A name that is defined inside of
anything goes to the innermost scope, in which names are looked up first, so it is
found at once. Definitions at the top level of a file and requires go to the table
of that file, in which names are looked up last. They take effect at once unless an
active scope knows the name, since that keeps standing before them. The innermost
scope exists in all states in which nodes are visited: it is new where statements
begin, and no visit takes it away.
-/

import CallTyping.Proofs.Completion
import CallTyping.Proofs.Isolation
import CallTyping.Proofs.Looking

namespace CallTyping

/-! ### Names in scopes and in tables -/

namespace Bindings

/-- What a name stands for in the active scopes. -/
def local? (bindings : Bindings) (name : String) : Option Ty :=
  (bindings.holder? name).bind fun id => ((bindings.frame id).get? name).map Binding.ty

variable (bindings : Bindings)

/-- The table of a file is asked for names that no active scope knows. -/
theorem lookup_eq (file name : String) :
    bindings.lookup file name =
      (bindings.local? name).or (((bindings.definitions file).get? name).map Binding.ty) := by
  unfold lookup local?
  cases holds : bindings.holder? name with
  | none => rfl
  | some id =>
    have known : (bindings.frame id).contains name = true := by
      unfold holder? at holds
      have found := List.find?_some holds
      exact found
    obtain ⟨binding, held⟩ := Option.isSome_iff_exists.mp known
    simp only [Option.bind_some, held, Option.map_some, Option.some_or]

theorem definitions_define_self (file name : String) (binding : Binding) :
    ((bindings.define file name binding).definitions file).get? name = some binding := by
  rw [definitions, define, OrderedMap.get?_insert_self, Option.getD_some,
    OrderedMap.get?_insert_self]

/-- A definition in a table is found unless an active scope knows the name. -/
theorem lookup_define (file name : String) (binding : Binding) :
    (bindings.define file name binding).lookup file name =
      some ((bindings.local? name).getD binding.ty) := by
  have scopes : (bindings.define file name binding).local? name = bindings.local? name := rfl
  rw [lookup_eq, scopes, definitions_define_self]
  cases bindings.local? name <;> rfl

theorem opened_withNewRoot : bindings.withNewRoot.Opened := by
  unfold Opened withNewRoot
  rw [Arena.size_allocate]
  exact Nat.lt_succ_self _

end Bindings

/-! ### States in which nodes are visited -/

theorem Confined.opened {before after : Checker} (confined : Confined before after)
    (opened : before.bindings.Opened) : after.bindings.Opened := by
  unfold Bindings.Opened at *
  rw [confined.restored.scopes]
  exact Nat.lt_of_lt_of_le opened confined.frames.size

/-- The states in which a check may come to a node: where statements begin, after each of the nodes
before, and between the arms of a match. That other states may be among them does no harm. -/
inductive Arrived (setup : Setup) : Checker → Prop where
  | check (past : List Request) (file : String) :
      Arrived setup ((Checker.after past).enterFile file)
  | record {checker : Checker} (arrived : Arrived setup checker) (event : Event) :
      Arrived setup { checker with log := checker.log.push event }
  | node {checker : Checker} (arrived : Arrived setup checker) (levels : Nat) (toplevel : Bool)
      (node : Node) :
      Arrived setup (visitNode setup (runWithin setup levels) toplevel node checker).2
  | body {checker : Checker} (arrived : Arrived setup checker) (id : ClosureId)
      (closure : Closure) (args : List Ty) : Arrived setup (checker.beginBody id closure args)
  | load {checker : Checker} (arrived : Arrived setup checker) (file : String) :
      Arrived setup (checker.beginFile file)
  /-- The body of an arm begins when the names of the arm are bound. -/
  | arm {checker : Checker} (arrived : Arrived setup checker) (names : List Node)
      (expected : List Ty) : Arrived setup (bindPattern names expected checker.enterScope).2
  | armLeft {checker : Checker} (arrived : Arrived setup checker) (levels : Nat)
      (expected : List Ty) (arm : Arm) :
      Arrived setup (visitArm setup (runWithin setup levels) expected arm checker).2
  | join {checker : Checker} (arrived : Arrived setup checker) {left right ty : Ty} {grown : Heap}
      (joined : checker.heap.join left right = some (ty, grown)) :
      Arrived setup { checker with heap := grown }

namespace Arrived

variable {setup : Setup} {checker : Checker}

theorem confined_sound (setup : Setup) (levels : Nat) :
    (Conduct.ofFlow fun before _ after => Confined before after).Sound setup
      (runWithin setup levels) :=
  (confined_flow setup (runWithin_confined setup levels)).sound

/-- The arguments of a body are bound in a scope that has just been opened. -/
theorem opened_beginBody (checker : Checker) (id : ClosureId) (closure : Closure)
    (args : List Ty) : (checker.beginBody id closure args).bindings.Opened := by
  have entered := Bindings.opened_enter (checker.bindings.withScopes closure.scopes)
  obtain ⟨scopes, spared⟩ := bindAll_spares (closure.params.zip args) closure.span
    (checker.bindings.withScopes closure.scopes).enter
  unfold Bindings.Opened at *
  rw [← scopes] at entered
  exact Nat.lt_of_lt_of_le entered spared.size

/-- The innermost scope is there. -/
theorem opened (arrived : Arrived setup checker) : checker.bindings.Opened := by
  induction arrived with
  | check past file => exact Bindings.opened_withNewRoot _
  | record _ _ inductionHypothesis => exact inductionHypothesis
  | node _ levels toplevel node inductionHypothesis =>
    exact Confined.opened ((confined_sound setup levels).visitNode toplevel _ node).flow
      inductionHypothesis
  | @body checker _ id closure args => exact opened_beginBody checker id closure args
  | load _ file => exact Bindings.opened_withNewRoot _
  | @arm checker _ names expected =>
    have entered : checker.enterScope.bindings.Opened := Bindings.opened_enter _
    exact Confined.opened
      ((confined_sound setup 0).bindPattern names expected _ fun _ _ => trivial).flow entered
  | armLeft _ levels expected arm inductionHypothesis =>
    have admitted : (Conduct.ofFlow fun before _ after => Confined before after).Admits
      arm.preorder := fun _ _ => ⟨trivial, fun _ _ => trivial⟩
    exact Confined.opened
      ((confined_sound setup levels).visitArm _ expected (fun _ _ => trivial) arm admitted).flow
      inductionHypothesis
  | join _ _ inductionHypothesis => exact inductionHypothesis

end Arrived

/-! ### Nodes that name a type -/

/-- A node in which a name is bound has done so, in the same file and scopes as before: the name is
in the table of the file if the node belongs there, and it stands for what was bound, unless it was
put into the table while it has a meaning in the active scopes. -/
structure TakesEffect (before after : Checker) (toplevel : Bool) (name : String) (bound : Ty) :
    Prop where
  file : after.file = before.file
  scopes : after.bindings.scopes = before.bindings.scopes
  table : toplevel = true → after.definition? after.file name = some bound
  found : after.lookup name =
    some (if toplevel then (after.bindings.local? name).getD bound else bound)

theorem outcome_defineName (toplevel : Bool) (span : Span) (name : String) (ty : Ty)
    (checker : Checker) :
    (defineName toplevel span name ty).outcome checker = (.ok .unit, { checker with
      bindings :=
        if toplevel then checker.bindings.define checker.file name ⟨ty, span⟩
        else checker.bindings.bind name ⟨ty, span⟩ }) := by
  cases toplevel <;> rfl

section

variable {setup : Setup} {run : Runner} {checker after : Checker} {span : Span} {name : String}

/-- A visit that answers has visited the expression of the node, and given the node its type. -/
theorem visitNode_untyped {toplevel : Bool} {expr : Expr} {piece : Node} {ty : Ty}
    (done : visitNode setup run toplevel (.untyped span expr) checker =
      ((piece, .ok ty), after)) :
    ∃ typed, piece = .mk span (some ty) typed ∧
      visitExpr setup run toplevel span expr
        { checker with log := checker.log.push (.visiting expr.kindName span) } =
          ((typed, .ok ty), after) := by
  rw [Node.untyped, visitNode, Visit.andThen_ok (Visit.settle_eq _ _ _)] at done
  unfold Visit.asNode at done
  rcases result : visitExpr setup run toplevel span expr
    { checker with log := checker.log.push (.visiting expr.kindName span) } with
    ⟨⟨typed, answer⟩, last⟩
  rw [Check.outcome_record] at done
  dsimp only at done
  rw [result] at done
  cases done
  exact ⟨typed, rfl, rfl⟩

theorem slot_visitNode {toplevel : Bool} {node piece : Node} {ty : Ty}
    (done : visitNode setup run toplevel node checker = ((piece, .ok ty), after)) :
    piece.slot = some ty := by
  obtain ⟨place, _ | old, expr⟩ := node
  · obtain ⟨typed, rfl, -⟩ := visitNode_untyped done
    rfl
  · unfold visitNode at done
    rw [Visit.andThen_ok (Visit.settle_eq _ _ _)] at done
    cases done

/-- A definition visits the value, and binds the name to the type of the value. -/
theorem visitNode_define {toplevel : Bool} {value piece : Node} {ty : Ty}
    (done : visitNode setup run toplevel (.untyped span (.define name value)) checker =
      ((piece, .ok ty), after)) :
    ∃ typed bound middle,
      visitNode setup run false value
        { checker with log := checker.log.push (.visiting "define" span) } =
          ((typed, .ok bound), middle) ∧
      piece = .mk span (some .unit) (.define name typed) ∧
      after = { middle with
        bindings :=
          if toplevel then middle.bindings.define middle.file name ⟨bound, span⟩
          else middle.bindings.bind name ⟨bound, span⟩ } := by
  obtain ⟨expr, rfl, visited⟩ := visitNode_untyped done
  rw [visitExpr] at visited
  dsimp only [Expr.kindName] at visited
  rcases result : visitNode setup run false value
    { checker with log := checker.log.push (.visiting "define" span) } with
    ⟨⟨typed, stop | bound⟩, middle⟩
  · rw [Visit.andThen_error result] at visited
    cases visited
  · rw [Visit.andThen_ok result, Visit.settle_eq, outcome_defineName] at visited
    cases visited
    exact ⟨typed, bound, middle, rfl, rfl, rfl⟩

theorem exposeFile_defines {file : String} {ty : Ty}
    (passes : (exposeFile span name file).outcome checker = (.ok ty, after)) :
    ∃ heap, after = { checker with
      heap
      bindings := checker.bindings.define checker.file name ⟨ty, span⟩ } := by
  rw [outcome_exposeFile] at passes
  split at passes
  · cases passes
  · cases passes
    exact ⟨_, rfl⟩

/-- A require binds its name in the table of the current file, from a state at the same place. -/
theorem typeOfRequire_defines {levels : Nat} {ty : Ty}
    (passes : (typeOfRequire setup (runWithin setup levels) span name).outcome checker =
      (.ok ty, after)) :
    ∃ middle heap, Restored checker middle ∧ after = { middle with
      heap
      bindings := middle.bindings.define middle.file name ⟨ty, span⟩ } := by
  rw [outcome_typeOfRequire] at passes
  split at passes
  · cases passes
  next closed =>
    split at passes
    · obtain ⟨heap, defined⟩ := exposeFile_defines passes
      refine ⟨_, heap, ?_, defined⟩
      exact ⟨rfl, rfl, rfl, rfl⟩
    next unknown =>
      have restored := (restored_flow setup (runWithin_restores setup levels)).load
        (Bool.eq_false_iff.mpr closed) (Bool.eq_false_iff.mpr unknown)
        (loadFile_ends setup (runWithin setup levels) span _ checker)
      rcases loaded : (loadFile setup (runWithin setup levels) span _).outcome checker with
        ⟨stop | found, middle⟩
      · rw [loaded] at passes
        cases passes
      · rw [loaded] at passes restored
        obtain ⟨heap, defined⟩ := exposeFile_defines passes
        exact ⟨middle, heap, restored, defined⟩

theorem visitNode_require {levels : Nat} {toplevel : Bool} {piece : Node} {ty : Ty}
    (done : visitNode setup (runWithin setup levels) toplevel (.untyped span (.require name))
      checker = ((piece, .ok ty), after)) :
    piece = .mk span (some ty) (.require name) ∧
      (typeOfRequire setup (runWithin setup levels) span name).outcome
        { checker with log := checker.log.push (.visiting "require" span) } = (.ok ty, after) := by
  obtain ⟨expr, rfl, visited⟩ := visitNode_untyped done
  rw [visitExpr, Visit.settle_eq] at visited
  dsimp only [Expr.kindName] at visited
  generalize (typeOfRequire setup (runWithin setup levels) span name).outcome _ = ended at visited
  obtain ⟨answer, last⟩ := ended
  cases visited
  exact ⟨rfl, rfl⟩

/-- A name that is put into the table of the current file. -/
theorem takesEffect_define {middle : Checker} {bound : Ty} (restored : Restored checker middle)
    (heap : Heap) :
    TakesEffect checker { middle with
      heap
      bindings := middle.bindings.define middle.file name ⟨bound, span⟩ } true name bound where
  file := restored.file
  scopes := restored.scopes
  table _ := by
    unfold Checker.definition? Checker.definitions
    dsimp only
    rw [Bindings.definitions_define_self]
    rfl
  found := Bindings.lookup_define middle.bindings middle.file name ⟨bound, span⟩

/-- A name that is bound in the innermost scope. -/
theorem takesEffect_bind {middle : Checker} {bound : Ty} (restored : Restored checker middle)
    (opened : middle.bindings.Opened) :
    TakesEffect checker { middle with
      bindings := middle.bindings.bind name ⟨bound, span⟩ } false name bound where
  file := restored.file
  scopes := restored.scopes
  table := nofun
  found := by
    unfold Checker.lookup
    dsimp only
    rw [Bindings.lookup_bind opened, if_pos rfl]
    rfl

end

/-- In every state in which a check may come to a node: after a definition that was checked without
a fault its name stands for the type of its value, and after a require its name stands for the type
of the require, in the same file and scopes. Only at the top level of a file and by a require the
name keeps another meaning, namely the one that it has in the active scopes at that time. Also then
the table of the file has the new one. -/
theorem definitions_take_effect {setup : Setup} {checker : Checker}
    (arrived : Arrived setup checker) (levels : Nat) (toplevel : Bool) (span : Span)
    (name : String) :
    (∀ value piece ty after,
      visitNode setup (runWithin setup levels) toplevel (.untyped span (.define name value))
          checker = ((piece, .ok ty), after) →
        ∃ typed bound, piece = .mk span (some .unit) (.define name typed) ∧
          typed.slot = some bound ∧ TakesEffect checker after toplevel name bound) ∧
    (∀ piece ty after,
      visitNode setup (runWithin setup levels) toplevel (.untyped span (.require name))
          checker = ((piece, .ok ty), after) →
        piece = .mk span (some ty) (.require name) ∧ TakesEffect checker after true name ty) := by
  have logged (event : Event) :
      Restored checker { checker with log := checker.log.push event } := ⟨rfl, rfl, rfl, rfl⟩
  constructor
  · intro value piece ty after done
    obtain ⟨typed, bound, middle, visited, rfl, rfl⟩ := visitNode_define done
    refine ⟨typed, bound, rfl, slot_visitNode visited, ?_⟩
    have confined : Confined
        { checker with log := checker.log.push (.visiting "define" span) } middle := by
      have kept := ((Arrived.confined_sound setup levels).visitNode false
        { checker with log := checker.log.push (.visiting "define" span) } value).flow
      rw [Visit.outcome, visited] at kept
      exact kept
    have restored := (logged _).trans confined.restored
    cases toplevel with
    | true => exact takesEffect_define restored middle.heap
    | false => exact takesEffect_bind restored (confined.opened (arrived.record _).opened)
  · intro piece ty after done
    obtain ⟨rfl, passes⟩ := visitNode_require done
    obtain ⟨middle, heap, restored, rfl⟩ := typeOfRequire_defines passes
    exact ⟨rfl, takesEffect_define ((logged _).trans restored) heap⟩

/-- A definition at the top level. -/
def topLevelString : Node :=
  .untyped .origin (.define "x" (.untyped .origin (.literal (.string "s"))))

/-- At the beginning of a file it takes effect. -/
theorem topLevelString_takes_effect :
    let start := Checker.initial.enterFile "main.brie"
    Arrived .standard start ∧
      ∃ typed bound after,
        visitNode .standard (runWithin .standard 1) true topLevelString start =
          ((.mk .origin (some .unit) (.define "x" typed), .ok .unit), after) ∧
        typed.slot = some bound ∧ TakesEffect start after true "x" bound ∧
        after.lookup "x" = some .string := by
  intro start
  have arrived : Arrived .standard start := .check [] "main.brie"
  obtain ⟨after, done⟩ : ∃ after, visitNode .standard (runWithin .standard 1) true topLevelString
      start = ((.mk .origin (some .unit) (.define "x"
        (.mk .origin (some .string) (.literal (.string "s")))), .ok .unit), after) := ⟨_, rfl⟩
  obtain ⟨typed, bound, same, slot, effect⟩ :=
    (definitions_take_effect arrived 1 true .origin "x").1 _ _ _ _ done
  refine ⟨arrived, typed, bound, after, same ▸ done, slot, effect, ?_⟩
  cases done
  rfl

/-- A definition of the same name inside of a conditional, which has no scope of its own. -/
def nestedInteger : Node :=
  .untyped .origin (.ifThen (.untyped .origin (.literal (.bool true)))
    [.untyped .origin (.define "x" (.untyped .origin (.literal (.integer 1))))])

/-- After it, the definition at the top level is checked without a fault, but the name keeps its
type. -/
theorem nestedInteger_hides_string :
    let start := Checker.initial.enterFile "main.brie"
    let before := (visitNode .standard (runWithin .standard 1) true nestedInteger start).2
    Arrived .standard before ∧
      ∃ after,
        visitNode .standard (runWithin .standard 1) true topLevelString before =
          ((.mk .origin (some .unit) (.define "x"
            (.mk .origin (some .string) (.literal (.string "s")))), .ok .unit), after) ∧
        after.lookup "x" = some .integer :=
  ⟨.node (.check [] "main.brie") 1 true nestedInteger, _, rfl, rfl⟩

end CallTyping
