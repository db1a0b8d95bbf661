/-
This file follows a property of types through everything that a check stores. A
property that all types in the heap have is kept by every change of the heap that
puts in only types with the property, and so for the types that names stand for.
What is read from there then has the property as well.
-/

import CallTyping.Heap.Join
import CallTyping.Proofs.HeapGrowth
import CallTyping.Scope

namespace CallTyping

/-! ### Maps -/

namespace OrderedMap

variable {κ α : Type} [DecidableEq κ] {good : α → Prop} {map : OrderedMap κ α}

/-- Every value in a map is good. -/
def All (map : OrderedMap κ α) (good : α → Prop) : Prop :=
  ∀ key value, map.get? key = some value → good value

theorem All.imp {better : α → Prop} (all : map.All good)
    (implies : ∀ value, good value → better value) : map.All better :=
  fun key value found => implies value (all key value found)

theorem all_empty : (empty : OrderedMap κ α).All good := nofun

theorem All.entries (all : map.All good) {key : κ} {value : α}
    (member : (key, value) ∈ map.entries) : good value :=
  all key value ((map.mem_entries_iff key value).mp member)

theorem All.insert (all : map.All good) {value : α} (fine : good value) (key : κ) :
    (map.insert key value).All good := by
  intro other found stored
  by_cases same : other = key
  · rw [same, get?_insert_self] at stored
    cases stored
    exact fine
  · rw [get?_insert_other _ _ _ _ same] at stored
    exact all other found stored

theorem All.insertNew (all : map.All good) {value : α} (fine : good value) (key : κ) :
    (map.insertNew key value).All good := by
  unfold OrderedMap.insertNew
  split
  · exact all
  · exact all.insert fine key

theorem all_singleton {value : α} (fine : good value) (key : κ) :
    (singleton key value).All good := by
  intro other found stored
  have member := mem_of_find stored
  cases List.mem_singleton.mp member
  exact fine

theorem All.foldl {β : Type} {change : OrderedMap κ α → β → OrderedMap κ α} {steps : List β}
    (all : map.All good)
    (kept : ∀ step ∈ steps, ∀ map : OrderedMap κ α, map.All good → (change map step).All good) :
    (steps.foldl change map).All good := by
  induction steps generalizing map with
  | nil => exact all
  | cons step rest inductionHypothesis =>
    exact inductionHypothesis (kept step List.mem_cons_self map all) fun other member =>
      kept other (List.mem_cons_of_mem _ member)

theorem all_ofList {pairs : List (κ × α)} (fine : ∀ pair ∈ pairs, good pair.2) :
    (ofList pairs).All good :=
  all_empty.foldl fun pair member _ all => all.insert (fine pair member) pair.1

end OrderedMap

/-! ### Arenas -/

namespace Arena

variable {α : Type} {good : α → Prop} {arena : Arena (OrderedMap String α)}
  {parts : OrderedMap String α}

/-- Every value in the cells is good. -/
def All (arena : Arena (OrderedMap String α)) (good : α → Prop) : Prop :=
  ∀ index, (arena.parts index).All good

theorem All.imp {better : α → Prop} (all : arena.All good)
    (implies : ∀ value, good value → better value) : arena.All better :=
  fun index => (all index).imp implies

theorem all_empty : (empty : Arena (OrderedMap String α)).All good := by
  intro index
  unfold Arena.parts
  rw [get?_outside empty index (Nat.zero_le _)]
  exact OrderedMap.all_empty

theorem All.set (all : arena.All good) (fine : parts.All good) (index : Nat) :
    (arena.set index parts).All good := by
  intro other
  by_cases inside : index < arena.size
  · unfold Arena.parts
    by_cases same : other = index
    · rw [same, get?_set_self _ _ _ inside]
      exact fine
    · rw [get?_set_other _ _ _ _ same]
      exact all other
  · rw [set_outside _ _ _ (Nat.le_of_not_lt inside)]
    exact all other

theorem All.allocate (all : arena.All good) (fine : parts.All good) :
    (arena.allocate parts).2.All good := by
  intro index
  unfold Arena.parts
  rcases Nat.lt_trichotomy index arena.size with inside | rfl | outside
  · rw [get?_allocate_other _ _ _ inside]
    exact all index
  · show ((arena.allocate parts).2.get? (arena.allocate parts).1 |>.getD .empty).All good
    rw [get?_allocate_self]
    exact fine
  · rw [get?_outside _ _ (by rw [size_allocate]; exact outside)]
    exact OrderedMap.all_empty

end Arena

/-! ### The heap -/

namespace Heap

variable {good : Ty → Prop} {heap : Heap}

/-- The type of every field and of every argument of a tag is good. -/
structure All (heap : Heap) (good : Ty → Prop) : Prop where
  objects : heap.objects.All good
  variants : heap.variants.All fun args => ∀ ty ∈ args, good ty

namespace All

theorem empty : All .empty good := ⟨Arena.all_empty, Arena.all_empty⟩

theorem imp {better : Ty → Prop} (all : heap.All good)
    (implies : ∀ ty, good ty → better ty) : heap.All better :=
  ⟨all.objects.imp implies, all.variants.imp fun _ fine ty member => implies ty (fine ty member)⟩

theorem field (all : heap.All good) {id : ObjectId} {name : String} {ty : Ty}
    (found : heap.field? id name = some ty) : good ty :=
  all.objects id.index name ty found

theorem tag (all : heap.All good) {id : VariantId} {name : String} {args : List Ty}
    (found : heap.tag? id name = some args) : ∀ ty ∈ args, good ty :=
  all.variants id.index name args found

theorem newObject (all : heap.All good) {fields : Fields} (fine : fields.All good) :
    (heap.newObject fields).2.All good :=
  ⟨all.objects.allocate fine, all.variants⟩

theorem newVariant (all : heap.All good) {tags : Tags}
    (fine : tags.All fun args => ∀ ty ∈ args, good ty) : (heap.newVariant tags).2.All good :=
  ⟨all.objects, all.variants.allocate fine⟩

theorem setField (all : heap.All good) (id : ObjectId) (name : String) {ty : Ty}
    (fine : good ty) : (heap.setField id name ty).All good :=
  ⟨all.objects.set ((all.objects id.index).insert fine name) id.index, all.variants⟩

/-- A join puts no types together that were not in the heap before. -/
theorem join (all : heap.All good) {left right ty : Ty} {grown : Heap}
    (joined : heap.join left right = some (ty, grown)) : grown.All good := by
  obtain ⟨-, rfl | ⟨known, incoming, -, -, rfl⟩⟩ := join_cases joined
  · exact all
  · refine ⟨all.objects, all.variants.set ?_ known.index⟩
    have old : (heap.tags known).All fun args => ∀ ty ∈ args, good ty := all.variants known.index
    have new : (heap.tags incoming).All fun args => ∀ ty ∈ args, good ty :=
      all.variants incoming.index
    exact old.foldl fun entry member _ united => united.insertNew (new.entries member) entry.1

end All

end Heap

/-! ### Bindings -/

namespace Bindings

variable {good : Ty → Prop} {bindings : Bindings}

/-- The type of every name, in a frame or at the top level of a file, is good. -/
structure All (bindings : Bindings) (good : Ty → Prop) : Prop where
  frames : bindings.frames.All fun binding => good binding.ty
  toplevel : bindings.toplevel.All fun names => names.All fun binding => good binding.ty

namespace All

theorem empty : All .empty good :=
  ⟨Arena.all_empty.allocate OrderedMap.all_empty, OrderedMap.all_empty⟩

theorem imp {better : Ty → Prop} (all : bindings.All good)
    (implies : ∀ ty, good ty → better ty) : bindings.All better :=
  ⟨all.frames.imp fun binding => implies binding.ty,
    all.toplevel.imp fun _ names => names.imp fun binding => implies binding.ty⟩

theorem frame (all : bindings.All good) (id : FrameId) :
    (bindings.frame id).All fun binding => good binding.ty :=
  all.frames id.index

theorem definitions (all : bindings.All good) (file : String) :
    (bindings.definitions file).All fun binding => good binding.ty := by
  unfold Bindings.definitions
  cases known : bindings.toplevel.get? file with
  | none => exact OrderedMap.all_empty
  | some names => exact all.toplevel file names known

theorem lookup (all : bindings.All good) {file name : String} {ty : Ty}
    (found : bindings.lookup file name = some ty) : good ty := by
  unfold Bindings.lookup at found
  split at found
  next id _ =>
    obtain ⟨binding, held, rfl⟩ := Option.map_eq_some_iff.mp found
    exact all.frame id name binding held
  next =>
    obtain ⟨binding, held, rfl⟩ := Option.map_eq_some_iff.mp found
    exact all.definitions file name binding held

theorem enter (all : bindings.All good) : bindings.enter.All good :=
  ⟨all.frames.allocate OrderedMap.all_empty, all.toplevel⟩

theorem leave (all : bindings.All good) : bindings.leave.All good := ⟨all.frames, all.toplevel⟩

theorem withScopes (all : bindings.All good) (scopes : Scopes) :
    (bindings.withScopes scopes).All good :=
  ⟨all.frames, all.toplevel⟩

theorem withNewRoot (all : bindings.All good) : bindings.withNewRoot.All good :=
  ⟨all.frames.allocate OrderedMap.all_empty, all.toplevel⟩

theorem bind (all : bindings.All good) (name : String) {binding : Binding}
    (fine : good binding.ty) : (bindings.bind name binding).All good :=
  ⟨all.frames.set ((all.frame _).insert fine name) _, all.toplevel⟩

theorem define (all : bindings.All good) (file name : String) {binding : Binding}
    (fine : good binding.ty) : (bindings.define file name binding).All good :=
  ⟨all.frames, all.toplevel.insert ((all.definitions file).insert fine name) file⟩

/-- The parameters of a body, bound one after the other. -/
theorem bindEach (all : bindings.All good) (span : Span) (pairs : List (String × Ty))
    (fine : ∀ pair ∈ pairs, good pair.2) :
    (pairs.foldl (fun bindings (name, ty) => bindings.bind name ⟨ty, span⟩) bindings).All
      good := by
  induction pairs generalizing bindings with
  | nil => exact all
  | cons pair rest inductionHypothesis =>
    exact inductionHypothesis (all.bind pair.1 (fine pair List.mem_cons_self))
      fun other member => fine other (List.mem_cons_of_mem _ member)

end All

end Bindings

end CallTyping
