/-
This file defines finite maps that remember the order in which their keys
arrived. A key has at most one entry, which is part of the type; writing to a
known key replaces the value where it stands, and a new key goes to the end.
Fields of objects, tags of variants, names in a frame, definitions of a file and
cached calls are all kept in such maps. The main statements say what a lookup
finds after each operation.
-/

namespace CallTyping

/-- A finite map whose entries stand in the order of their first insertion. -/
@[ext]
structure OrderedMap (κ α : Type) where
  entries : List (κ × α)
  distinct : (entries.map Prod.fst).Nodup

namespace OrderedMap

variable {κ α : Type}

/-- The map without entries. -/
def empty : OrderedMap κ α := ⟨[], List.nodup_nil⟩

/-- The keys in order. -/
def keys (map : OrderedMap κ α) : List κ := map.entries.map Prod.fst

/-- The number of entries. -/
def size (map : OrderedMap κ α) : Nat := map.entries.length

def isEmpty (map : OrderedMap κ α) : Bool := map.entries.isEmpty

variable [DecidableEq κ]

/-! ### Lists of entries -/

/-- The value of the first entry with this key. -/
def find (key : κ) : List (κ × α) → Option α
  | [] => none
  | (other, value) :: rest => if other = key then some value else find key rest

/-- Writes into the entry with this key, or into a new last entry. -/
def put (key : κ) (value : α) : List (κ × α) → List (κ × α)
  | [] => [(key, value)]
  | (other, old) :: rest =>
    if other = key then (other, value) :: rest else (other, old) :: put key value rest

theorem keys_put (key : κ) (value : α) (entries : List (κ × α)) :
    (put key value entries).map Prod.fst =
      if key ∈ entries.map Prod.fst then entries.map Prod.fst
      else entries.map Prod.fst ++ [key] := by
  induction entries with
  | nil => simp [put]
  | cons entry rest inductionHypothesis =>
    obtain ⟨other, old⟩ := entry
    by_cases equal : other = key
    · simp [put, equal]
    · have different : key ≠ other := fun same => equal same.symm
      simp only [put, if_neg equal, List.map_cons, inductionHypothesis, List.mem_cons, different,
        false_or]
      split <;> rfl

theorem nodup_keys_put (key : κ) (value : α) (entries : List (κ × α))
    (distinct : (entries.map Prod.fst).Nodup) : ((put key value entries).map Prod.fst).Nodup := by
  rw [keys_put]
  split
  · exact distinct
  next absent =>
    rw [List.nodup_append]
    refine ⟨distinct, by simp, ?_⟩
    intro first member second equal
    rw [List.mem_singleton] at equal
    subst equal
    exact fun same => absent (same ▸ member)

theorem find_put_self (key : κ) (value : α) (entries : List (κ × α)) :
    find key (put key value entries) = some value := by
  induction entries with
  | nil => simp [put, find]
  | cons entry rest inductionHypothesis =>
    obtain ⟨other, old⟩ := entry
    by_cases equal : other = key <;> simp [put, find, equal, inductionHypothesis]

theorem find_put_other (key other : κ) (value : α) (entries : List (κ × α))
    (different : other ≠ key) : find other (put key value entries) = find other entries := by
  induction entries with
  | nil => simp [put, find, Ne.symm different]
  | cons entry rest inductionHypothesis =>
    obtain ⟨first, old⟩ := entry
    by_cases equal : first = key
    · subst equal
      simp [put, find, Ne.symm different]
    · simp only [put, if_neg equal, find, inductionHypothesis]

/-- Writing what is there already changes nothing. -/
theorem put_same (key : κ) (value : α) (entries : List (κ × α))
    (present : find key entries = some value) : put key value entries = entries := by
  induction entries with
  | nil => simp [find] at present
  | cons entry rest inductionHypothesis =>
    obtain ⟨other, old⟩ := entry
    by_cases equal : other = key
    · simp only [find, if_pos equal, Option.some.injEq] at present
      rw [put, if_pos equal, present]
    · rw [find, if_neg equal] at present
      rw [put, if_neg equal, inductionHypothesis present]

/-- Writing a new key adds one entry at the end. -/
theorem put_new (key : κ) (value : α) (entries : List (κ × α))
    (absent : find key entries = none) : put key value entries = entries ++ [(key, value)] := by
  induction entries with
  | nil => rfl
  | cons entry rest inductionHypothesis =>
    obtain ⟨other, old⟩ := entry
    by_cases equal : other = key
    · simp [find, equal] at absent
    · rw [find, if_neg equal] at absent
      rw [put, if_neg equal, inductionHypothesis absent, List.cons_append]

theorem find_isSome (key : κ) (entries : List (κ × α)) :
    (find key entries).isSome = true ↔ key ∈ entries.map Prod.fst := by
  induction entries with
  | nil => simp [find]
  | cons entry rest inductionHypothesis =>
    obtain ⟨other, value⟩ := entry
    by_cases equal : other = key
    · simp [find, equal]
    · have different : key ≠ other := fun same => equal same.symm
      simp [find, equal, different, inductionHypothesis]

theorem mem_of_find {key : κ} {value : α} {entries : List (κ × α)}
    (found : find key entries = some value) : (key, value) ∈ entries := by
  induction entries with
  | nil => cases found
  | cons entry rest inductionHypothesis =>
    obtain ⟨other, old⟩ := entry
    rw [find] at found
    split at found
    next equal =>
      cases found
      rw [equal]
      exact List.mem_cons_self
    next => exact List.mem_cons_of_mem _ (inductionHypothesis found)

theorem find_of_mem {key : κ} {value : α} {entries : List (κ × α)}
    (distinct : (entries.map Prod.fst).Nodup) (member : (key, value) ∈ entries) :
    find key entries = some value := by
  induction entries with
  | nil => cases member
  | cons entry rest inductionHypothesis =>
    obtain ⟨other, old⟩ := entry
    obtain ⟨absent, distinct⟩ := List.nodup_cons.mp distinct
    rcases List.mem_cons.mp member with equal | later
    · cases equal
      exact if_pos rfl
    · rw [find, if_neg, inductionHypothesis distinct later]
      rintro rfl
      exact absent (List.mem_map.mpr ⟨_, later, rfl⟩)

/-! ### Maps -/

/-- The value stored for a key. -/
def get? (map : OrderedMap κ α) (key : κ) : Option α := find key map.entries

def contains (map : OrderedMap κ α) (key : κ) : Bool := (map.get? key).isSome

/-- Stores a value; a known key keeps its place and a new key goes to the end. -/
def insert (map : OrderedMap κ α) (key : κ) (value : α) : OrderedMap κ α :=
  ⟨put key value map.entries, nodup_keys_put key value map.entries map.distinct⟩

/-- Stores a value only if the key is new. -/
def insertNew (map : OrderedMap κ α) (key : κ) (value : α) : OrderedMap κ α :=
  if map.contains key then map else map.insert key value

/-- Changes the value of a known key. -/
def modify (map : OrderedMap κ α) (key : κ) (change : α → α) : OrderedMap κ α :=
  match map.get? key with
  | some value => map.insert key (change value)
  | none => map

/-- The map of a list of pairs: a repeated key keeps its first place and its last value. -/
def ofList (pairs : List (κ × α)) : OrderedMap κ α :=
  pairs.foldl (fun map pair => map.insert pair.1 pair.2) empty

/-- The map with one entry. -/
def singleton (key : κ) (value : α) : OrderedMap κ α := ⟨[(key, value)], by simp⟩

@[simp]
theorem get?_empty (key : κ) : (empty : OrderedMap κ α).get? key = none := rfl

@[simp]
theorem get?_insert_self (map : OrderedMap κ α) (key : κ) (value : α) :
    (map.insert key value).get? key = some value :=
  find_put_self key value map.entries

theorem get?_insert_other (map : OrderedMap κ α) (key other : κ) (value : α)
    (different : other ≠ key) : (map.insert key value).get? other = map.get? other :=
  find_put_other key other value map.entries different

theorem insert_same (map : OrderedMap κ α) (key : κ) (value : α)
    (present : map.get? key = some value) : map.insert key value = map :=
  OrderedMap.ext (put_same key value map.entries present)

theorem modify_same (map : OrderedMap κ α) (key : κ) (value : α) (change : α → α)
    (present : map.get? key = some value) (fixed : change value = value) :
    map.modify key change = map := by
  rw [modify, present]
  dsimp only
  rw [fixed, insert_same map key value present]

theorem entries_insert_new (map : OrderedMap κ α) (key : κ) (value : α)
    (absent : map.get? key = none) :
    (map.insert key value).entries = map.entries ++ [(key, value)] :=
  put_new key value map.entries absent

/-- The entries of a map are the pairs that a lookup finds. -/
theorem mem_entries_iff (map : OrderedMap κ α) (key : κ) (value : α) :
    (key, value) ∈ map.entries ↔ map.get? key = some value :=
  ⟨find_of_mem map.distinct, mem_of_find⟩

theorem contains_iff (map : OrderedMap κ α) (key : κ) :
    map.contains key = true ↔ key ∈ map.keys :=
  find_isSome key map.entries

theorem contains_congr {β : Type} {map : OrderedMap κ α} {other : OrderedMap κ β}
    (same : map.keys = other.keys) (key : κ) : map.contains key = other.contains key := by
  rw [Bool.eq_iff_iff, contains_iff, contains_iff, same]

/-- An insertion extends the keys by at most the key it writes. -/
theorem keys_insert (map : OrderedMap κ α) (key : κ) (value : α) :
    (map.insert key value).keys = if key ∈ map.keys then map.keys else map.keys ++ [key] :=
  keys_put key value map.entries

end OrderedMap

end CallTyping
