/-
This file proves that a lookup and a change of a type address the same binding. Both
go through the active frames from the innermost outwards and come to the table of the
file last. Frames are shared by all stacks that were copied while they were active,
so a change that is made through one stack is seen through every other one that
finds the same binding, and through no other. All states are covered to which a
sequence of operations on names leads, with stacks that were saved on the way and
made active again.
-/

import CallTyping.Scope
import Mathlib.Data.List.Basic

namespace CallTyping

/-! ### Changing the value of a known key -/

namespace OrderedMap

variable {κ α : Type} [DecidableEq κ] (map : OrderedMap κ α) (key : κ) (change : α → α)

theorem get?_modify_self : (map.modify key change).get? key = (map.get? key).map change := by
  unfold modify
  cases held : map.get? key with
  | none => exact held
  | some value => exact get?_insert_self map key _

theorem get?_modify_other {other : κ} (different : other ≠ key) :
    (map.modify key change).get? other = map.get? other := by
  unfold modify
  cases held : map.get? key with
  | none => rfl
  | some value => exact get?_insert_other map key other _ different

theorem keys_modify : (map.modify key change).keys = map.keys := by
  unfold modify
  cases held : map.get? key with
  | none => rfl
  | some value =>
    have known : key ∈ map.keys := by
      rw [← contains_iff, contains, held]
      rfl
    rw [keys_insert, if_pos known]

end OrderedMap

namespace Bindings

/-! ### Places of bindings -/

/-- Where a binding is kept. -/
inductive Place where
  | frame (id : FrameId) (name : String)
  | table (file name : String)
  deriving DecidableEq

/-- The binding that is kept at a place. -/
def binding? (bindings : Bindings) : Place → Option Binding
  | .frame id name => (bindings.frame id).get? name
  | .table file name => (bindings.definitions file).get? name

/-- A name that is used in a file stands for the binding at a place, for who has these frames: the
innermost frame that knows it decides, and the table of the file if no frame does. -/
inductive Resolves (bindings : Bindings) (stack : Scopes) (file name : String) : Place → Prop
  | frame {inner outer : List FrameId} {id : FrameId}
      (split : stack.frames = inner ++ id :: outer)
      (unknown : ∀ other ∈ inner, (bindings.frame other).get? name = none)
      (known : (bindings.binding? (.frame id name)).isSome = true) :
      Resolves bindings stack file name (.frame id name)
  | table (unknown : ∀ id ∈ stack.frames, (bindings.frame id).get? name = none)
      (known : (bindings.binding? (.table file name)).isSome = true) :
      Resolves bindings stack file name (.table file name)

/-- What a name that is used in a file stands for, for who has these frames. -/
def lookupIn (bindings : Bindings) (stack : Scopes) (file name : String) : Option Ty :=
  (bindings.withScopes stack).lookup file name

/-- The place of the binding that a lookup finds. -/
def place? (bindings : Bindings) (file name : String) : Option Place :=
  match bindings.holder? name with
  | some id => some (.frame id name)
  | none =>
    if (bindings.definitions file).contains name then some (.table file name) else none

section

variable {bindings : Bindings} {stack : Scopes} {file name : String} {place : Place}

theorem contains_eq_false {id : FrameId} :
    (bindings.frame id).contains name = false ↔ (bindings.frame id).get? name = none := by
  rw [OrderedMap.contains, Option.isSome_eq_false_iff, Option.isNone_iff_eq_none]

theorem holder?_eq_some {id : FrameId} : (bindings.withScopes stack).holder? name = some id ↔
    (bindings.binding? (.frame id name)).isSome = true ∧
      ∃ inner outer, stack.frames = inner ++ id :: outer ∧
        ∀ other ∈ inner, (bindings.frame other).get? name = none := by
  refine List.find?_eq_some_iff_append.trans (and_congr_right fun _ => ?_)
  simp only [Bool.not_eq_true', ← contains_eq_false]
  exact Iff.rfl

theorem holder?_eq_none : (bindings.withScopes stack).holder? name = none ↔
    ∀ id ∈ stack.frames, (bindings.frame id).get? name = none := by
  refine List.find?_eq_none.trans (forall₂_congr fun id _ => ?_)
  rw [Bool.not_eq_true, ← contains_eq_false]
  rfl

/-- The place is found by going through the frames, and then to the table. -/
theorem resolves_iff : bindings.Resolves stack file name place ↔
    (bindings.withScopes stack).place? file name = some place := by
  unfold place?
  constructor
  · intro resolves
    cases resolves with
    | frame split unknown known => rw [holder?_eq_some.mpr ⟨known, _, _, split, unknown⟩]
    | table unknown known =>
      rw [holder?_eq_none.mpr unknown]
      exact if_pos known
  · intro found
    cases holds : (bindings.withScopes stack).holder? name with
    | some id =>
      rw [holds] at found
      cases found
      obtain ⟨known, inner, outer, split, unknown⟩ := holder?_eq_some.mp holds
      exact .frame split unknown known
    | none =>
      rw [holds] at found
      obtain ⟨known, same⟩ := Option.ite_none_right_eq_some.mp found
      cases same
      exact .table (holder?_eq_none.mp holds) known

theorem Resolves.known (resolves : bindings.Resolves stack file name place) :
    (bindings.binding? place).isSome = true := by
  cases resolves with
  | frame _ _ known => exact known
  | table _ known => exact known

/-- A lookup gives the type of the binding at the place. -/
theorem lookup_eq_place (bindings : Bindings) (file name : String) :
    bindings.lookup file name =
      (bindings.place? file name).bind fun place => (bindings.binding? place).map Binding.ty := by
  unfold lookup place?
  cases bindings.holder? name with
  | some id => rfl
  | none =>
    dsimp only
    split
    next => rfl
    next unknown =>
      rw [Option.not_isSome_iff_eq_none.mp unknown]
      rfl

theorem Resolves.lookupIn (resolves : bindings.Resolves stack file name place) :
    bindings.lookupIn stack file name = (bindings.binding? place).map Binding.ty := by
  rw [Bindings.lookupIn, lookup_eq_place, resolves_iff.mp resolves]
  rfl

theorem lookupIn_unresolved (unresolved : ∀ place, ¬bindings.Resolves stack file name place) :
    bindings.lookupIn stack file name = none := by
  cases found : (bindings.withScopes stack).place? file name with
  | some place => exact absurd (resolves_iff.mpr found) (unresolved place)
  | none => rw [Bindings.lookupIn, lookup_eq_place, found, Option.bind_none]

end

/-! ### One changed binding -/

/-- The type of the binding at this place is another one, and nothing else has changed: its span,
all other bindings, the order of the names, the frames and the stack are what they were. -/
structure Retyped (before after : Bindings) (place : Place) (ty : Ty) : Prop where
  written : ∃ old, before.binding? place = some old ∧
    after.binding? place = some { old with ty }
  others : ∀ other, other ≠ place → after.binding? other = before.binding? other
  frameNames : ∀ id, (after.frame id).keys = (before.frame id).keys
  tableNames : ∀ file, (after.definitions file).keys = (before.definitions file).keys
  frameCount : after.frames.size = before.frames.size
  scopes : after.scopes = before.scopes

namespace Retyped

variable {before after : Bindings} {place : Place} {ty : Ty}

/-- Names stand for bindings at the same places as before. -/
theorem resolves (retyped : Retyped before after place ty) {stack : Scopes} {file name : String}
    {other : Place} : after.Resolves stack file name other ↔
      before.Resolves stack file name other := by
  have holder : (after.withScopes stack).holder? name = (before.withScopes stack).holder? name :=
    congrArg (List.find? · stack.frames) (funext fun id =>
      OrderedMap.contains_congr (retyped.frameNames id) name)
  have table : ((after.withScopes stack).definitions file).contains name =
      ((before.withScopes stack).definitions file).contains name :=
    OrderedMap.contains_congr (retyped.tableNames file) name
  rw [resolves_iff, resolves_iff, place?, place?, holder, table]

/-- Whoever finds the binding sees the new type. -/
theorem lookupIn_self (retyped : Retyped before after place ty) {stack : Scopes}
    {file name : String} (resolves : before.Resolves stack file name place) :
    after.lookupIn stack file name = some ty := by
  obtain ⟨old, -, written⟩ := retyped.written
  rw [(retyped.resolves.mpr resolves).lookupIn, written]
  rfl

theorem lookup_self (retyped : Retyped before after place ty) {file name : String}
    (resolves : before.Resolves before.scopes file name place) :
    after.lookup file name = some ty := by
  have found := retyped.lookupIn_self resolves
  rw [← retyped.scopes] at found
  exact found

/-- Whoever does not find the binding sees what was there before. -/
theorem lookupIn_other (retyped : Retyped before after place ty) {stack : Scopes}
    {file name : String} (elsewhere : ¬before.Resolves stack file name place) :
    after.lookupIn stack file name = before.lookupIn stack file name := by
  by_cases resolved : ∃ other, before.Resolves stack file name other
  · obtain ⟨other, resolves⟩ := resolved
    have different : other ≠ place := fun same => elsewhere (same ▸ resolves)
    rw [(retyped.resolves.mpr resolves).lookupIn, resolves.lookupIn,
      retyped.others other different]
  · have unresolved := not_exists.mp resolved
    rw [lookupIn_unresolved unresolved,
      lookupIn_unresolved fun other => mt retyped.resolves.mp (unresolved other)]

end Retyped

/-- Changes the type of the binding at a place. -/
def retypeAt (bindings : Bindings) (ty : Ty) : Place → Bindings
  | .frame id name =>
    { bindings with
      frames := bindings.frames.set id.index
        ((bindings.frame id).modify name fun binding => { binding with ty }) }
  | .table file name =>
    { bindings with
      toplevel := bindings.toplevel.insert file
        ((bindings.definitions file).modify name fun binding => { binding with ty }) }

/-- A name is given another type at the place where a lookup finds it. -/
theorem retype_eq (bindings : Bindings) (file name : String) (ty : Ty) :
    bindings.retype file name ty = (bindings.place? file name).map (bindings.retypeAt ty) := by
  unfold retype place?
  cases bindings.holder? name with
  | some id => rfl
  | none =>
    dsimp only
    split <;> rfl

variable {bindings : Bindings}

theorem frame_inside {id : FrameId} {name : String}
    (known : ((bindings.frame id).get? name).isSome = true) :
    id.index < bindings.frames.size := by
  refine Nat.lt_of_not_le fun outside => ?_
  rw [frame, Arena.get?_outside _ _ outside] at known
  cases known

theorem frame_retypeAt {id : FrameId} {name : String} (inside : id.index < bindings.frames.size)
    (ty : Ty) (other : FrameId) :
    (bindings.retypeAt ty (.frame id name)).frame other =
      if other = id then (bindings.frame id).modify name fun binding => { binding with ty }
      else bindings.frame other := by
  split
  next same =>
    rw [same, frame, retypeAt, Arena.get?_set_self _ _ _ inside, Option.getD_some]
  next different =>
    have indices : other.index ≠ id.index := fun equal => different (by
      cases other; cases id; exact congrArg FrameId.mk equal)
    rw [frame, retypeAt, Arena.get?_set_other _ _ _ _ indices, frame]

theorem definitions_retypeAt (bindings : Bindings) (file name : String) (ty : Ty)
    (other : String) :
    (bindings.retypeAt ty (.table file name)).definitions other =
      if other = file then
        (bindings.definitions file).modify name fun binding => { binding with ty }
      else bindings.definitions other := by
  split
  next same =>
    rw [same, definitions, retypeAt, OrderedMap.get?_insert_self, Option.getD_some]
  next different =>
    rw [definitions, retypeAt, OrderedMap.get?_insert_other _ _ _ _ different, definitions]

/-- Changing the type at a place that has a binding changes this binding only. -/
theorem retyped_retypeAt {place : Place} (known : (bindings.binding? place).isSome = true)
    (ty : Ty) : Retyped bindings (bindings.retypeAt ty place) place ty := by
  obtain ⟨old, held⟩ := Option.isSome_iff_exists.mp known
  cases place with
  | frame id name =>
    have frames : ∀ other, (bindings.retypeAt ty (.frame id name)).frame other = _ :=
      frame_retypeAt (frame_inside known) ty
    refine ⟨⟨old, held, ?_⟩, ?_, ?_, fun _ => rfl, Arena.size_set _ _ _, rfl⟩
    · rw [binding?] at held ⊢
      rw [frames, if_pos rfl, OrderedMap.get?_modify_self, held]
      rfl
    · intro other different
      cases other with
      | table => rfl
      | frame otherId otherName =>
        rw [binding?, binding?, frames]
        split
        next same =>
          subst same
          exact OrderedMap.get?_modify_other _ _ _ fun equal => different (equal ▸ rfl)
        next => rfl
    · intro other
      rw [frames]
      split
      next same => rw [OrderedMap.keys_modify, same]
      next => rfl
  | table file name =>
    have tables := bindings.definitions_retypeAt file name ty
    refine ⟨⟨old, held, ?_⟩, ?_, fun _ => rfl, ?_, rfl, rfl⟩
    · rw [binding?] at held ⊢
      rw [tables, if_pos rfl, OrderedMap.get?_modify_self, held]
      rfl
    · intro other different
      cases other with
      | frame => rfl
      | table otherFile otherName =>
        rw [binding?, binding?, tables]
        split
        next same =>
          subst same
          exact OrderedMap.get?_modify_other _ _ _ fun equal => different (equal ▸ rfl)
        next => rfl
    · intro other
      rw [tables]
      split
      next same => rw [OrderedMap.keys_modify, same]
      next => rfl

/-- A name has a place exactly if a lookup finds it. -/
theorem isSome_place? (bindings : Bindings) (file name : String) :
    (bindings.place? file name).isSome = (bindings.lookup file name).isSome := by
  rw [lookup_eq_place]
  cases found : bindings.place? file name with
  | none => rfl
  | some place =>
    have resolves : bindings.Resolves bindings.scopes file name place := resolves_iff.mpr found
    rw [Option.bind_some, Option.isSome_map, resolves.known]
    rfl

end Bindings

/-! ### Sequences of operations -/

/-- All names, and the stacks of frames that were saved. -/
structure NameTable where
  bindings : Bindings
  saved : List Scopes

/-- An operation on names and stacks. -/
inductive NameOperation where
  | enter
  | leave
  | bind (name : String) (binding : Binding)
  | define (file name : String) (binding : Binding)
  /-- Copies the active stack. -/
  | save
  /-- Saves the active stack, and makes a saved one active in its place. -/
  | activate (index : Nat)
  /-- Saves the active stack, and makes a new frame the only active one. -/
  | renew
  | retype (file name : String) (ty : Ty)

namespace NameTable

def step (table : NameTable) : NameOperation → NameTable
  | .enter => { table with bindings := table.bindings.enter }
  | .leave => { table with bindings := table.bindings.leave }
  | .bind name binding => { table with bindings := table.bindings.bind name binding }
  | .define file name binding =>
    { table with bindings := table.bindings.define file name binding }
  | .save => { table with saved := table.saved ++ [table.bindings.scopes] }
  | .activate index =>
    match table.saved[index]? with
    | some stack => ⟨table.bindings.withScopes stack, table.saved ++ [table.bindings.scopes]⟩
    | none => table
  | .renew => ⟨table.bindings.withNewRoot, table.saved ++ [table.bindings.scopes]⟩
  | .retype file name ty =>
    { table with bindings := (table.bindings.retype file name ty).getD table.bindings }

/-- The names after some operations, from none at the beginning. -/
def after (operations : List NameOperation) : NameTable :=
  operations.foldl step ⟨.empty, []⟩

theorem after_append (operations : List NameOperation) (operation : NameOperation) :
    after (operations ++ [operation]) = (after operations).step operation := by
  rw [after, List.foldl_append]
  rfl

end NameTable

/-- After any operations, a name can be given another type exactly if a lookup finds it. This
changes the one binding that the lookup finds, whose span is kept. From then on this lookup gives
the new type, as do all lookups that come to the same binding, through the active stack, a saved one
or any other. All other lookups give what they gave before, and nothing is changed at all if the
name is unknown. No stack is ever empty. -/
theorem retype_addresses_lookup (operations : List NameOperation) (file name : String) (ty : Ty) :
    let before := NameTable.after operations
    let after := NameTable.after (operations ++ [.retype file name ty])
    (∀ stack ∈ before.bindings.scopes :: before.saved, 0 < stack.depth) ∧
      (before.bindings.retype file name ty).isSome = (before.bindings.lookup file name).isSome ∧
      (before.bindings.lookup file name = none → after = before) ∧
      ((before.bindings.lookup file name).isSome = true →
        after.saved = before.saved ∧ after.bindings.lookup file name = some ty ∧
        ∃ place, before.bindings.Resolves before.bindings.scopes file name place ∧
          before.bindings.Retyped after.bindings place ty ∧
          ∀ (stack : Scopes) (used other : String),
            (before.bindings.Resolves stack used other place →
              after.bindings.lookupIn stack used other = some ty) ∧
            (¬before.bindings.Resolves stack used other place →
              after.bindings.lookupIn stack used other =
                before.bindings.lookupIn stack used other)) := by
  intro before after
  have stepped : after = before.step (.retype file name ty) := NameTable.after_append _ _
  rw [stepped, NameTable.step, Bindings.retype_eq, Option.isSome_map, Bindings.isSome_place?]
  refine ⟨fun stack _ => Nat.succ_pos _, rfl, fun unknown => ?_, fun known => ?_⟩
  · have nowhere : before.bindings.place? file name = none := by
      refine Option.not_isSome_iff_eq_none.mp ?_
      rw [Bindings.isSome_place?, unknown]
      exact Bool.false_ne_true
    rw [nowhere]
    rfl
  · rw [← Bindings.isSome_place?] at known
    obtain ⟨place, found⟩ := Option.isSome_iff_exists.mp known
    have resolves : before.bindings.Resolves before.bindings.scopes file name place :=
      Bindings.resolves_iff.mpr found
    have retyped := Bindings.retyped_retypeAt resolves.known ty
    rw [found, Option.map_some, Option.getD_some]
    exact ⟨rfl, retyped.lookup_self resolves, place, resolves, retyped, fun stack used other =>
      ⟨retyped.lookupIn_self, retyped.lookupIn_other⟩⟩

/-- The outermost frame is shared by three stacks. It has a name, which the table has as well, and
in one of the saved stacks the innermost frame has it, too. -/
def sharedFrame : List NameOperation :=
  [.define "main.brie" "x" ⟨.bool, .origin⟩, .bind "x" ⟨.integer, ⟨1, 2⟩⟩, .save, .enter,
    .activate 0, .enter, .bind "x" ⟨.float, .origin⟩, .activate 0]

/-- When the name is changed in the outermost frame, a stack in which another frame has it does not
see the change, and the table keeps what it has. -/
theorem sharedFrame_retyped :
    let before := NameTable.after sharedFrame
    let after := (NameTable.after (sharedFrame ++ [.retype "main.brie" "x" .string])).bindings
    before.saved = [⟨⟨0⟩, []⟩, ⟨⟨1⟩, [⟨0⟩]⟩, ⟨⟨2⟩, [⟨0⟩]⟩] ∧
      before.bindings.lookup "main.brie" "x" = some .integer ∧
      after.lookup "main.brie" "x" = some .string ∧
      after.lookupIn ⟨⟨1⟩, [⟨0⟩]⟩ "main.brie" "x" = some .string ∧
      after.lookupIn ⟨⟨2⟩, [⟨0⟩]⟩ "main.brie" "x" = some .float ∧
      after.binding? (.frame ⟨0⟩ "x") = some ⟨.string, ⟨1, 2⟩⟩ ∧
      after.binding? (.table "main.brie" "x") = some ⟨.bool, .origin⟩ := by
  intro before after
  obtain ⟨-, -, -, changes⟩ := retype_addresses_lookup sharedFrame "main.brie" "x" .string
  obtain ⟨-, found, -⟩ := changes rfl
  exact ⟨rfl, rfl, found, rfl, rfl, rfl, rfl⟩

end CallTyping
