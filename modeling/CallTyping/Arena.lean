/-
This file defines storage cells that are handed out one after the other and
never taken back. A cell is addressed by its number, so two places that keep the
same number share the cell: what is written through one is read through the
other. The statements say which cells a write and an allocation leave alone.
-/

namespace CallTyping

/-- Numbered cells; the next free number is the count of cells so far. -/
structure Arena (α : Type) where
  cells : Array α

namespace Arena

variable {α : Type}

def empty : Arena α := ⟨#[]⟩

def size (arena : Arena α) : Nat := arena.cells.size

/-- The content of a cell, if there is one of this number. -/
def get? (arena : Arena α) (index : Nat) : Option α := arena.cells[index]?

/-- Replaces the content of a cell; without such a cell nothing changes. -/
def set (arena : Arena α) (index : Nat) (value : α) : Arena α :=
  ⟨arena.cells.setIfInBounds index value⟩

/-- Opens a new cell and tells its number. -/
def allocate (arena : Arena α) (value : α) : Nat × Arena α :=
  (arena.cells.size, ⟨arena.cells.push value⟩)

theorem get?_set_self (arena : Arena α) (index : Nat) (value : α) (inside : index < arena.size) :
    (arena.set index value).get? index = some value := by
  simp only [get?, set, size] at *
  simp [inside]

theorem get?_set_other (arena : Arena α) (index other : Nat) (value : α)
    (different : other ≠ index) : (arena.set index value).get? other = arena.get? other := by
  simp [get?, set, Ne.symm different]

/-- Writing to a cell that does not exist changes nothing. -/
theorem set_outside (arena : Arena α) (index : Nat) (value : α) (outside : arena.size ≤ index) :
    arena.set index value = arena := by
  rw [set, Array.setIfInBounds_eq_of_size_le outside]

theorem get?_outside (arena : Arena α) (index : Nat) (outside : arena.size ≤ index) :
    arena.get? index = none :=
  Array.getElem?_eq_none outside

/-- Writing what a cell holds already changes nothing. -/
theorem set_same (arena : Arena α) (index : Nat) (value : α)
    (present : arena.get? index = some value) : arena.set index value = arena := by
  obtain ⟨inside, held⟩ := Array.getElem?_eq_some_iff.mp present
  rw [set, Array.setIfInBounds_def, dif_pos inside, ← held, Array.set_getElem_self]

theorem get?_allocate_self (arena : Arena α) (value : α) :
    (arena.allocate value).2.get? (arena.allocate value).1 = some value := by
  simp [get?, allocate]

theorem get?_allocate_other (arena : Arena α) (value : α) (index : Nat)
    (inside : index < arena.size) : (arena.allocate value).2.get? index = arena.get? index := by
  simp only [get?, allocate, size] at *
  exact Array.getElem?_push_lt inside ▸ (Array.getElem?_eq_getElem inside).symm

@[simp]
theorem size_set (arena : Arena α) (index : Nat) (value : α) :
    (arena.set index value).size = arena.size := by
  simp [size, set]

@[simp]
theorem size_allocate (arena : Arena α) (value : α) :
    (arena.allocate value).2.size = arena.size + 1 := by
  simp [size, allocate]

end Arena

end CallTyping
