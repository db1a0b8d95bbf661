/-
This file proves that types can be told apart by their texts. The kind of a type can
be seen from the first word of its text and the character after it, and what stands
between and after its parts occurs in none of them where it could be taken for more
of the part. So a text that is followed by more determines the type it was written
for, and where the rest begins. That holds for types that are written out in full;
the text of a part that is cut off says nothing.
-/

import CallTyping.Proofs.Delimiters
import CallTyping.Proofs.Unfolding

namespace CallTyping

/-! ### Types that are written out in full -/

/-- A name with at least one character, all of them ASCII letters, digits and underscores. -/
def IsName (name : String) : Prop := name ≠ "" ∧ ∀ char ∈ name.toList, isNameChar char = true

instance (name : String) : Decidable (IsName name) :=
  decidable_of_iff (name ≠ "" ∧ name.toList.all isNameChar = true)
    (by rw [List.all_eq_true, IsName])

theorem IsName.starts {name : String} (isName : IsName name) : StartsPart name.toList := by
  obtain ⟨notEmpty, chars⟩ := isName
  rw [Ne, ← String.toList_inj] at notEmpty
  generalize name.toList = text at notEmpty chars
  cases text with
  | nil => exact absurd rfl notEmpty
  | cons char => exact .inr (chars char List.mem_cons_self)

theorem isName_placeholder : IsName "_" := by decide

/-- The kinds of types that are written as one word. -/
def plainKinds : List Kind := [.unit, .bool, .integer, .float, .string]

theorem isName_plain {kind : Kind} (plain : kind ∈ plainKinds) : IsName kind.name := by
  revert kind
  decide

/-- A name that stands neither for a plain type nor for an argument that is still missing. -/
def IsTagName (tag : String) : Prop := IsName tag ∧ tag ≠ "_" ∧ ∀ kind ∈ plainKinds, tag ≠ kind.name

instance (tag : String) : Decidable (IsTagName tag) := inferInstanceAs (Decidable (_ ∧ _))

/-- The arguments of a tag, in parentheses if there are any. -/
def argumentsText (arguments : List String) : String :=
  if arguments.isEmpty then "" else "(" ++ Heap.separated ", " arguments ++ ")"

theorem tagText_eq (tag : String) (arguments : List String) :
    Heap.tagText tag arguments = tag ++ argumentsText arguments := by
  unfold Heap.tagText argumentsText
  split
  · rw [String.append_empty]
  · rw [String.append_assoc, String.append_assoc, String.append_assoc]

/-- The positions of a function: the arguments it has, and one place for each that is missing. -/
def slots (arity : Nat) (bound : List Ty) : List (Option Ty) :=
  bound.map some ++ List.replicate (Ty.remaining arity bound) none

theorem filterMap_slots (arity : Nat) (bound : List Ty) :
    (slots arity bound).filterMap id = bound := by
  rw [slots, List.filterMap_append, List.filterMap_map]
  simp

theorem length_slots {arity : Nat} {bound : List Ty} (within : bound.length ≤ arity) :
    (slots arity bound).length = arity := by
  rw [slots, List.length_append, List.length_map, List.length_replicate, Ty.remaining,
    Nat.add_sub_cancel' within]

theorem mem_slots {arity : Nat} {bound : List Ty} {slot : Option Ty}
    (member : slot ∈ slots arity bound) : ∀ ty ∈ slot, ty ∈ bound := by
  rintro ty rfl
  rw [← filterMap_slots arity bound]
  exact List.mem_filterMap.mpr ⟨_, member, rfl⟩

theorem related_slots {related : Ty → Ty → Prop} {arity otherArity : Nat}
    {bound otherBound : List Ty} (within : bound.length ≤ arity)
    (within' : otherBound.length ≤ otherArity)
    (positions : List.Forall₂ (Option.Rel related) (slots arity bound)
      (slots otherArity otherBound)) :
    arity = otherArity ∧ List.Forall₂ related bound otherBound := by
  have lengths := positions.length_eq
  rw [length_slots within, length_slots within'] at lengths
  have arguments : List.Forall₂ related ((slots arity bound).filterMap id)
      ((slots otherArity otherBound).filterMap id) :=
    List.rel_filterMap (fun _ _ holds => holds) positions
  rw [filterMap_slots, filterMap_slots] at arguments
  exact ⟨lengths, arguments⟩

namespace Heap

/-- What is written for one position of a function. -/
def slotText (heap : Heap) (levels : Nat) : Option Ty → String
  | none => "_"
  | some ty => heap.textWithin levels ty

theorem textWithin_object (heap : Heap) (levels : Nat) (id : ObjectId) :
    heap.textWithin (levels + 1) (.object id) =
      "\x7b" ++ separated ", " ((heap.fields id).entries.map fun field =>
        field.1 ++ ": " ++ heap.textWithin levels field.2) ++ "\x7d" := rfl

theorem textWithin_variant (heap : Heap) (levels : Nat) (id : VariantId) :
    heap.textWithin (levels + 1) (.variant id) =
      separated " | " ((heap.tags id).entries.map fun tag =>
        tag.1 ++ argumentsText (tag.2.map (heap.textWithin levels))) := by
  simp only [textWithin, tagText_eq]

theorem textWithin_function (heap : Heap) (levels : Nat) (closure : ClosureId) (arity : Nat)
    (bound : List Ty) :
    heap.textWithin (levels + 1) (.function closure arity bound) =
      "fn" ++ closure.text ++ "(" ++
        separated ", " ((slots arity bound).map (heap.slotText levels)) ++ ")" := by
  rw [slots, List.map_append, List.map_map, List.map_replicate]
  rfl

/-- A type that can be read off its text: its parts are nested fewer than this many levels deep, all
names are words, a variant has a tag and none that would be taken for another type, and functions
have been given no more arguments than they expect. -/
def Readable (heap : Heap) : Nat → Ty → Prop
  | 0, _ => False
  | levels + 1, .object id =>
    ∀ field ∈ (heap.fields id).entries, IsName field.1 ∧ heap.Readable levels field.2
  | levels + 1, .function _ arity bound =>
    bound.length ≤ arity ∧ ∀ ty ∈ bound, heap.Readable levels ty
  | levels + 1, .variant id =>
    (heap.tags id).entries ≠ [] ∧ ∀ tag ∈ (heap.tags id).entries,
      IsTagName tag.1 ∧ ∀ ty ∈ tag.2, heap.Readable levels ty
  | _ + 1, _ => True

instance decidableReadable (heap : Heap) : (levels : Nat) → (ty : Ty) →
    Decidable (heap.Readable levels ty)
  | 0, _ => .isFalse id
  | levels + 1, .object id =>
    have := heap.decidableReadable levels
    inferInstanceAs (Decidable (∀ field ∈ (heap.fields id).entries, _))
  | levels + 1, .function _ arity bound =>
    have := heap.decidableReadable levels
    inferInstanceAs (Decidable (bound.length ≤ arity ∧ ∀ ty ∈ bound, _))
  | levels + 1, .variant id =>
    have := heap.decidableReadable levels
    inferInstanceAs (Decidable ((heap.tags id).entries ≠ [] ∧ ∀ tag ∈ (heap.tags id).entries, _))
  | _ + 1, .unit | _ + 1, .bool | _ + 1, .integer | _ + 1, .float | _ + 1, .string =>
    .isTrue trivial

end Heap

/-! ### The kind of type a text starts with -/

/-- The kind of type that is written with this word only; a placeholder is no type. -/
def wordKind (word : List Char) : Option Kind :=
  if word = ['_'] then none
  else some ((plainKinds.find? fun kind => decide (kind.name.toList = word)).getD .variant)

/-- The kind of type that starts with this word and has this character after it. -/
def kindOf (word : List Char) : Option Char → Option Kind
  | some '\x7b' => some .object
  | some '#' => some .function
  | _ => wordKind word

/-- The kind of type with which a text starts. -/
def kindShown (text : List Char) : Option Kind :=
  kindOf (text.takeWhile isNameChar) (text.dropWhile isNameChar).head?

theorem kindShown_word {word rest : List Char}
    (chars : ∀ char ∈ word, isNameChar char = true) (ends : EndsTagName rest) :
    kindShown (word ++ rest) = wordKind word := by
  obtain ⟨first, after⟩ := span_word chars ends.endsWord
  rw [kindShown, first, after]
  cases rest with
  | nil => rfl
  | cons => rcases ends with rfl | rfl | rfl | rfl | rfl <;> rfl

theorem IsTagName.wordKind_eq {tag : String} (isTagName : IsTagName tag) :
    wordKind tag.toList = some .variant := by
  obtain ⟨-, noPlaceholder, notPlain⟩ := isTagName
  have noWord : ¬tag.toList = ['_'] := fun equal => noPlaceholder (String.toList_inj.mp equal)
  have notFound : (plainKinds.find? fun kind => decide (kind.name.toList = tag.toList)) = none :=
    List.find?_eq_none.mpr fun kind member found =>
      notPlain kind member (String.toList_inj.mp (of_decide_eq_true found).symm)
  rw [wordKind, if_neg noWord, notFound, Option.getD_none]

theorem kindShown_plain {kind : Kind} (plain : kind ∈ plainKinds) {rest : List Char}
    (ends : EndsType rest) : kindShown (kind.name.toList ++ rest) = some kind := by
  have found : ∀ kind ∈ plainKinds, wordKind kind.name.toList = some kind := by decide
  rw [kindShown_word (isName_plain plain).2 ends.endsTag.endsTagName, found kind plain]

theorem endsTagName_arguments (arguments : List String) {rest : List Char}
    (ends : EndsTag rest) : EndsTagName ((argumentsText arguments).toList ++ rest) := by
  unfold argumentsText
  split
  · exact ends.endsTagName
  · rw [String.toList_append, String.toList_append]
    exact .inl rfl

theorem not_endsTag_arguments (first : String) (arguments : List String) (rest : List Char) :
    ¬EndsTag ((argumentsText (first :: arguments)).toList ++ rest) := by
  change ¬EndsTag (("(" ++ Heap.separated ", " (first :: arguments) ++ ")").toList ++ rest)
  rw [String.toList_append, String.toList_append]
  rintro (next | next | next | next) <;> cases next

namespace Heap

variable {heap : Heap} {levels : Nat}

/-- The text of a variant starts with the name of its first tag. -/
theorem toList_textWithin_variant {id : VariantId}
    (readable : heap.Readable (levels + 1) (.variant id)) :
    ∃ tag after, IsTagName tag ∧
      (heap.textWithin (levels + 1) (.variant id)).toList = tag.toList ++ after ∧
        ∀ rest, EndsType rest → EndsTagName (after ++ rest) := by
  obtain ⟨notEmpty, tags⟩ := readable
  rw [textWithin_variant]
  generalize (heap.tags id).entries = entries at notEmpty tags
  cases entries with
  | nil => exact absurd rfl notEmpty
  | cons first entries =>
    obtain ⟨tag, args⟩ := first
    obtain ⟨isTagName, -⟩ := tags _ List.mem_cons_self
    rw [toList_separated_cons, String.toList_append, List.append_assoc]
    refine ⟨tag, _, isTagName, rfl, fun rest ends => ?_⟩
    rw [List.append_assoc]
    exact endsTagName_arguments _ (tags_layout.after _ entries ends)

theorem kindShown_text {ty : Ty} (readable : heap.Readable levels ty) {rest : List Char}
    (ends : EndsType rest) :
    kindShown ((heap.textWithin levels ty).toList ++ rest) = some ty.kind := by
  cases levels with
  | zero => exact nomatch readable
  | succ levels =>
    cases ty with
    | object id =>
      rw [textWithin, String.toList_append, String.toList_append]
      rfl
    | function closure arity bound =>
      rw [textWithin, ClosureId.text]
      simp only [String.toList_append]
      rfl
    | variant id =>
      obtain ⟨tag, after, isTagName, text, ends'⟩ := toList_textWithin_variant readable
      rw [text, List.append_assoc, kindShown_word isTagName.1.2 (ends' rest ends)]
      exact isTagName.wordKind_eq
    | unit | bool | integer | float | string => exact kindShown_plain (by decide) ends

theorem kindShown_slot {slot : Option Ty} (readable : ∀ ty ∈ slot, heap.Readable levels ty)
    {rest : List Char} (ends : EndsType rest) :
    kindShown ((heap.slotText levels slot).toList ++ rest) = slot.map Ty.kind := by
  cases slot with
  | none =>
    have noType : wordKind "_".toList = none := by decide
    exact (kindShown_word isName_placeholder.2 ends.endsTag.endsTagName).trans noType
  | some ty => exact kindShown_text (readable ty rfl) ends

theorem startsPart_text {ty : Ty} (readable : heap.Readable levels ty) :
    StartsPart (heap.textWithin levels ty).toList := by
  cases levels with
  | zero => exact nomatch readable
  | succ levels =>
    cases ty with
    | object id =>
      rw [textWithin, String.toList_append, String.toList_append]
      exact .inl rfl
    | function closure arity bound =>
      rw [textWithin]
      simp only [String.toList_append]
      exact .inr rfl
    | variant id =>
      obtain ⟨tag, after, isTagName, text, -⟩ := toList_textWithin_variant readable
      rw [text]
      exact isTagName.1.starts.append after
    | unit | bool | integer | float | string => exact (isName_plain (by decide)).starts

theorem startsPart_slot {slot : Option Ty} (readable : ∀ ty ∈ slot, heap.Readable levels ty) :
    StartsPart (heap.slotText levels slot).toList := by
  cases slot with
  | none => exact isName_placeholder.starts
  | some ty => exact startsPart_text (readable ty rfl)

/-! ### Types that have the same text -/

section

variable {other : Heap}
  (parts : ∀ {left right}, heap.Readable levels left → other.Readable levels right →
    Legible EndsType (heap.textWithin levels left) (other.textWithin levels right)
      (heap.AlikeInOrder left other right))

include parts

theorem objects_legible {left right : ObjectId}
    (readable : heap.Readable (levels + 1) (.object left))
    (readable' : other.Readable (levels + 1) (.object right)) :
    Legible EndsType (heap.textWithin (levels + 1) (.object left))
      (other.textWithin (levels + 1) (.object right))
      (heap.AlikeInOrder (.object left) other (.object right)) := by
  rw [alikeInOrder_objects_iff, textWithin_object, textWithin_object]
  refine .beforeLiteral "\x7d" (.afterLiteral "\x7b" (fields_layout.legible ?_ ?_ ?_))
    fun _ _ => rfl
  · intro field member
    exact ((readable field member).1.starts.appendText _).appendText _
  · intro field member
    exact ((readable' field member).1.starts.appendText _).appendText _
  · intro field member found member'
    obtain ⟨isName, inner⟩ := readable field member
    obtain ⟨isName', inner'⟩ := readable' found member'
    have names : Legible (fun _ => True) (field.1 ++ ": ") (found.1 ++ ": ") _ :=
      (Legible.word isName.2 isName'.2).beforeLiteral ": " fun _ _ => rfl
    exact names.append (parts inner inner') (fun _ _ => trivial) fun _ _ => trivial

theorem slots_legible {left right : Option Ty}
    (readable : ∀ ty ∈ left, heap.Readable levels ty)
    (readable' : ∀ ty ∈ right, other.Readable levels ty) :
    Legible EndsType (heap.slotText levels left) (other.slotText levels right)
      (Option.Rel (heap.AlikeInOrder · other ·) left right) := by
  intro rest rest' ends ends' equal
  have kinds := (kindShown_slot readable ends).symm.trans
    ((congrArg kindShown equal).trans (kindShown_slot readable' ends'))
  cases left with
  | none =>
    cases right with
    | none => exact ⟨.none, List.append_cancel_left equal⟩
    | some => cases kinds
  | some ty =>
    cases right with
    | none => cases kinds
    | some found =>
      obtain ⟨alike, same⟩ := parts (readable ty rfl) (readable' found rfl) _ _ ends ends' equal
      exact ⟨.some alike, same⟩

theorem functions_legible {closure otherClosure : ClosureId} {arity otherArity : Nat}
    {bound otherBound : List Ty}
    (readable : heap.Readable (levels + 1) (.function closure arity bound))
    (readable' : other.Readable (levels + 1) (.function otherClosure otherArity otherBound)) :
    Legible EndsType (heap.textWithin (levels + 1) (.function closure arity bound))
      (other.textWithin (levels + 1) (.function otherClosure otherArity otherBound))
      (heap.AlikeInOrder (.function closure arity bound) other
        (.function otherClosure otherArity otherBound)) := by
  rw [alikeInOrder_functions_iff, textWithin_function, textWithin_function]
  obtain ⟨within, inner⟩ := readable
  obtain ⟨within', inner'⟩ := readable'
  have given : ∀ slot ∈ slots arity bound, ∀ ty ∈ slot, heap.Readable levels ty :=
    fun _ member ty present => inner ty (mem_slots member ty present)
  have given' : ∀ slot ∈ slots otherArity otherBound, ∀ ty ∈ slot, other.Readable levels ty :=
    fun _ member ty present => inner' ty (mem_slots member ty present)
  have closures : Legible EndsWord closure.text otherClosure.text
      (closure.index = otherClosure.index) :=
    (Legible.number _ _).afterLiteral "#"
  have start : Legible (fun _ => True) ("fn" ++ closure.text ++ "(")
      ("fn" ++ otherClosure.text ++ "(") _ :=
    (closures.afterLiteral "fn").beforeLiteral "(" fun _ _ => rfl
  have positions := arguments_layout.legible (fun _ member => startsPart_slot (given _ member))
    (fun _ member => startsPart_slot (given' _ member)) fun _ member _ member' =>
      slots_legible parts (given _ member) (given' _ member')
  refine ((start.append positions (fun _ _ => trivial) fun _ _ => trivial).beforeLiteral ")"
    fun _ _ => rfl).imp ?_
  rintro ⟨indices, related⟩
  exact ⟨congrArg ClosureId.mk indices, related_slots within within' related⟩

theorem arguments_legible {args otherArgs : List Ty}
    (readable : ∀ ty ∈ args, heap.Readable levels ty)
    (readable' : ∀ ty ∈ otherArgs, other.Readable levels ty) :
    Legible EndsTag (argumentsText (args.map (heap.textWithin levels)))
      (argumentsText (otherArgs.map (other.textWithin levels)))
      (List.Forall₂ (heap.AlikeInOrder · other ·) args otherArgs) := by
  cases args with
  | nil =>
    cases otherArgs with
    | nil => exact (Legible.literal _).imp fun _ => .nil
    | cons found otherArgs =>
      intro rest _ ends _ equal
      change rest = _ at equal
      exact absurd (equal ▸ ends) (not_endsTag_arguments _ _ _)
  | cons ty args =>
    cases otherArgs with
    | nil =>
      intro _ rest _ ends equal
      change _ = rest at equal
      exact absurd (equal ▸ ends) (not_endsTag_arguments _ _ _)
    | cons found otherArgs =>
      exact .beforeLiteral ")" (.afterLiteral "(" (arguments_layout.legible
        (fun _ member => startsPart_text (readable _ member))
        (fun _ member => startsPart_text (readable' _ member))
        fun _ member _ member' => parts (readable _ member) (readable' _ member')))
        fun _ _ => rfl

theorem variants_legible {left right : VariantId}
    (readable : heap.Readable (levels + 1) (.variant left))
    (readable' : other.Readable (levels + 1) (.variant right)) :
    Legible EndsType (heap.textWithin (levels + 1) (.variant left))
      (other.textWithin (levels + 1) (.variant right))
      (heap.AlikeInOrder (.variant left) other (.variant right)) := by
  rw [alikeInOrder_variants_iff, textWithin_variant, textWithin_variant]
  refine tags_layout.legible ?_ ?_ ?_
  · intro tag member
    exact (readable.2 tag member).1.1.starts.appendText _
  · intro tag member
    exact (readable'.2 tag member).1.1.starts.appendText _
  · intro tag member found member'
    obtain ⟨isTagName, inner⟩ := readable.2 tag member
    obtain ⟨isTagName', inner'⟩ := readable'.2 found member'
    exact (Legible.word isTagName.1.2 isTagName'.1.2).append (arguments_legible parts inner inner')
      (fun _ ends => (endsTagName_arguments _ ends).endsWord)
      fun _ ends => (endsTagName_arguments _ ends).endsWord

end

theorem types_legible {other : Heap} {left right : Ty} (readable : heap.Readable levels left)
    (readable' : other.Readable levels right) :
    Legible EndsType (heap.textWithin levels left) (other.textWithin levels right)
      (heap.AlikeInOrder left other right) := by
  induction levels generalizing left right with
  | zero => exact nomatch readable
  | succ levels inductionHypothesis =>
    intro rest rest' ends ends' equal
    -- Equal texts start with the same kind of type, so only pairs of one kind are left to compare.
    have kinds := (kindShown_text readable ends).symm.trans
      ((congrArg kindShown equal).trans (kindShown_text readable' ends'))
    cases Ty.paired_of_kind (Option.some.inj kinds) with
    | objects =>
      exact objects_legible inductionHypothesis readable readable' _ _ ends ends' equal
    | functions =>
      exact functions_legible inductionHypothesis readable readable' _ _ ends ends' equal
    | variants =>
      exact variants_legible inductionHypothesis readable readable' _ _ ends ends' equal
    | _ => exact ⟨alikeInOrder_of_succ fun _ => rfl, List.append_cancel_left equal⟩

/-- Readable types with the same text have the same structure, with fields and tags in the same
order. -/
theorem alike_of_text_eq {other : Heap} {left right : Ty}
    (readable : heap.Readable (deepestLevel + 1) left)
    (readable' : other.Readable (deepestLevel + 1) right)
    (sameText : heap.text left = other.text right) :
    heap.AlikeInOrder left other right ∧ heap.Alike left other right ∧
      (other = heap → heap.same left right = true) := by
  obtain ⟨inOrder, -⟩ := types_legible readable readable' [] [] trivial trivial
    (congrArg (fun text : String => text.toList ++ []) sameText)
  refine ⟨inOrder, inOrder.alike, ?_⟩
  rintro rfl
  exact (same_iff _ left right).mpr inOrder.alike

/-- An object with an optional value and a handler that has been given this value, and before it as
many other objects. -/
def listener (spares : Nat) : Heap :=
  let value : Ty := .variant ⟨0⟩
  let handler : Ty := .function ⟨12⟩ 2 [value]
  let fields : Fields := .ofList [("value", value), ("on_2", handler)]
  { objects := ⟨(Array.replicate spares .empty).push fields⟩
    variants := ⟨#[.ofList [("Some", [.integer]), ("None", [])]]⟩ }

/-- A listener has the same text wherever it stands. -/
theorem listeners_alike :
    (listener 0).Readable (deepestLevel + 1) (.object ⟨0⟩) ∧
      (listener 3).Readable (deepestLevel + 1) (.object ⟨3⟩) ∧
      (listener 0).text (.object ⟨0⟩) =
        "\x7bvalue: Some(Integer) | None, on_2: fn#12(Some(Integer) | None, _)\x7d" ∧
      (listener 3).text (.object ⟨3⟩) = (listener 0).text (.object ⟨0⟩) ∧
      (listener 0).AlikeInOrder (.object ⟨0⟩) (listener 3) (.object ⟨3⟩) := by
  have readable : (listener 0).Readable (deepestLevel + 1) (.object ⟨0⟩) := by decide +kernel
  have readable' : (listener 3).Readable (deepestLevel + 1) (.object ⟨3⟩) := by decide +kernel
  have sameText : (listener 0).text (.object ⟨0⟩) = (listener 3).text (.object ⟨3⟩) := by
    decide +kernel
  exact ⟨readable, readable', by decide +kernel, sameText.symm,
    (alike_of_text_eq readable readable' sameText).1⟩

end Heap

end CallTyping
