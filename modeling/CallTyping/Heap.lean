/-
This file defines the heap, which keeps the fields behind every object handle and
the tags behind every variant handle. Both are read through their handle, so a
field or tag written through one alias is found through all others. Objects and
variants are never taken off the heap.
-/

import CallTyping.Arena
import CallTyping.OrderedMap
import CallTyping.Ty

namespace CallTyping

/-- The fields of an object, in the order in which they were added. -/
abbrev Fields := OrderedMap String Ty

/-- The tags of a variant with the types of their arguments, in the order in which they were
added. -/
abbrev Tags := OrderedMap String (List Ty)

/-- The parts of all objects and variants met so far. -/
structure Heap where
  objects : Arena Fields
  variants : Arena Tags

namespace Heap

def empty : Heap := ⟨.empty, .empty⟩

/-! ### Objects -/

/-- The fields of an object; a handle that was never given out has none. -/
def fields (heap : Heap) (id : ObjectId) : Fields := (heap.objects.get? id.index).getD .empty

def field? (heap : Heap) (id : ObjectId) (name : String) : Option Ty := (heap.fields id).get? name

/-- A new object with these fields. -/
def newObject (heap : Heap) (fields : Fields) : Ty × Heap :=
  let (index, objects) := heap.objects.allocate fields
  (.object ⟨index⟩, { heap with objects })

/-- Adds or replaces a field. -/
def setField (heap : Heap) (id : ObjectId) (name : String) (ty : Ty) : Heap :=
  { heap with objects := heap.objects.set id.index ((heap.fields id).insert name ty) }

/-! ### Variants -/

/-- The tags of a variant; a handle that was never given out has none. -/
def tags (heap : Heap) (id : VariantId) : Tags := (heap.variants.get? id.index).getD .empty

def tag? (heap : Heap) (id : VariantId) (name : String) : Option (List Ty) :=
  (heap.tags id).get? name

/-- A new variant with these tags. -/
def newVariant (heap : Heap) (tags : Tags) : Ty × Heap :=
  let (index, variants) := heap.variants.allocate tags
  (.variant ⟨index⟩, { heap with variants })

/-- Replaces all tags of a variant. -/
def setTags (heap : Heap) (id : VariantId) (tags : Tags) : Heap :=
  { heap with variants := heap.variants.set id.index tags }

/-! ### Reading after writing -/

theorem fields_newObject (heap : Heap) (fields : Fields) :
    (heap.newObject fields).2.fields ⟨heap.objects.size⟩ = fields :=
  congrArg (fun parts => parts.getD .empty) (heap.objects.get?_allocate_self fields)

theorem tags_newVariant (heap : Heap) (tags : Tags) :
    (heap.newVariant tags).2.tags ⟨heap.variants.size⟩ = tags :=
  congrArg (fun parts => parts.getD .empty) (heap.variants.get?_allocate_self tags)

theorem fields_setField_self (heap : Heap) (id : ObjectId) (name : String) (ty : Ty)
    (known : id.index < heap.objects.size) :
    (heap.setField id name ty).fields id = (heap.fields id).insert name ty := by
  simp [fields, setField, Arena.get?_set_self _ _ _ known]

theorem fields_setField_other (heap : Heap) (id other : ObjectId) (name : String) (ty : Ty)
    (different : other ≠ id) : (heap.setField id name ty).fields other = heap.fields other := by
  have indices : other.index ≠ id.index := fun equal => different (by
    cases other; cases id; simp_all)
  simp [fields, setField, Arena.get?_set_other _ _ _ _ indices]

theorem tags_setTags_self (heap : Heap) (id : VariantId) (tags : Tags)
    (known : id.index < heap.variants.size) : (heap.setTags id tags).tags id = tags := by
  simp [Heap.tags, setTags, Arena.get?_set_self _ _ _ known]

theorem tags_setTags_other (heap : Heap) (id other : VariantId) (tags : Tags)
    (different : other ≠ id) : (heap.setTags id tags).tags other = heap.tags other := by
  have indices : other.index ≠ id.index := fun equal => different (by
    cases other; cases id; simp_all)
  simp [Heap.tags, setTags, Arena.get?_set_other _ _ _ _ indices]

/-- Writing the type that a field has already changes nothing. -/
theorem setField_same (heap : Heap) (id : ObjectId) (name : String) (ty : Ty)
    (present : heap.field? id name = some ty) : heap.setField id name ty = heap := by
  rw [setField, OrderedMap.insert_same _ _ _ present]
  unfold field? fields at present
  unfold fields
  cases held : heap.objects.get? id.index with
  | none =>
    rw [held] at present
    cases present
  | some parts => rw [Option.getD_some, Arena.set_same _ _ _ held]

end Heap

end CallTyping
