/-
This file tells texts apart that are part of a longer text. Two pieces of text with
something after each may only make up the same characters if they mean the same and
the same follows. That holds for words, since a word ends where a character follows
that no name has; it passes from pieces to their concatenation, and to lists of
pieces whose separator occurs neither where an item may go on nor after the list.
-/

import CallTyping.Heap.Text
import Mathlib.Data.List.Forall2

namespace CallTyping

/-! ### Texts with more text after them -/

/-- Two texts, with something that may follow them after each, make up the same characters only if
this is the case, and then the same follows. -/
def Legible (follows : List Char → Prop) (left right : String) (same : Prop) : Prop :=
  ∀ rest rest', follows rest → follows rest' → left.toList ++ rest = right.toList ++ rest' →
    same ∧ rest = rest'

namespace Legible

variable {follows middle : List Char → Prop} {left right left' right' : String}
  {same same' : Prop}

theorem literal (text : String) : Legible follows text text True :=
  fun _ _ _ _ equal => ⟨trivial, List.append_cancel_left equal⟩

theorem imp (legible : Legible follows left right same) (implies : same → same') :
    Legible follows left right same' :=
  fun rest rest' may may' equal => (legible rest rest' may may' equal).imp_left implies

theorem append (first : Legible middle left right same)
    (second : Legible follows left' right' same')
    (before : ∀ rest, follows rest → middle (left'.toList ++ rest))
    (before' : ∀ rest, follows rest → middle (right'.toList ++ rest)) :
    Legible follows (left ++ left') (right ++ right') (same ∧ same') := by
  intro rest rest' may may' equal
  rw [String.toList_append, String.toList_append, List.append_assoc, List.append_assoc] at equal
  obtain ⟨holds, equal⟩ := first _ _ (before rest may) (before' rest' may') equal
  obtain ⟨holds', equal⟩ := second rest rest' may may' equal
  exact ⟨⟨holds, holds'⟩, equal⟩

theorem afterLiteral (text : String) (legible : Legible follows left right same) :
    Legible follows (text ++ left) (text ++ right) same := by
  have start : Legible (fun _ => True) text text True := literal text
  exact (start.append legible (fun _ _ => trivial) fun _ _ => trivial).imp And.right

theorem beforeLiteral (text : String) (legible : Legible middle left right same)
    (before : ∀ rest, follows rest → middle (text.toList ++ rest)) :
    Legible follows (left ++ text) (right ++ text) same :=
  (legible.append (literal text) before before).imp And.left

end Legible

/-! ### Words -/

/-- The characters of a name. -/
def isNameChar (char : Char) : Bool := char.isAlphanum || char = '_'

/-- The text goes on with something else than a character of a name. -/
def EndsWord : List Char → Prop
  | [] => True
  | char :: _ => isNameChar char = false

theorem span_word {word rest : List Char} (chars : ∀ char ∈ word, isNameChar char = true)
    (ends : EndsWord rest) :
    (word ++ rest).takeWhile isNameChar = word ∧ (word ++ rest).dropWhile isNameChar = rest := by
  rw [List.takeWhile_append_of_pos chars, List.dropWhile_append_of_pos chars]
  cases rest with
  | nil => exact ⟨List.append_nil word, rfl⟩
  | cons char rest =>
    have notMore : ¬isNameChar char = true := Bool.not_eq_true _ ▸ ends
    rw [List.takeWhile_cons_of_neg notMore, List.dropWhile_cons_of_neg notMore]
    exact ⟨List.append_nil word, rfl⟩

theorem Legible.word {left right : String} (chars : ∀ char ∈ left.toList, isNameChar char = true)
    (chars' : ∀ char ∈ right.toList, isNameChar char = true) :
    Legible EndsWord left right (left = right) := by
  intro rest rest' ends ends' equal
  obtain ⟨start, after⟩ := span_word chars ends
  obtain ⟨start', after'⟩ := span_word chars' ends'
  rw [equal] at start after
  exact ⟨String.toList_inj.mp (start.symm.trans start'), after.symm.trans after'⟩

theorem isNameChar_of_digit {char : Char} (digit : char.isDigit = true) :
    isNameChar char = true := by
  rw [isNameChar, Char.isAlphanum, digit, Bool.or_true, Bool.true_or]

theorem Legible.number (left right : Nat) :
    Legible EndsWord (toString left) (toString right) (left = right) := by
  have digits (number : Nat) : ∀ char ∈ (toString number).toList, isNameChar char = true := by
    intro char member
    rw [Nat.toString_eq_repr, Nat.toList_repr] at member
    exact isNameChar_of_digit (Nat.isDigit_of_mem_toDigits (by decide) (by decide) member)
  refine (Legible.word (digits left) (digits right)).imp fun equal => ?_
  rw [Nat.toString_eq_repr, Nat.toString_eq_repr, ← String.toList_inj, Nat.toList_repr,
    Nat.toList_repr] at equal
  calc left
    _ = Nat.ofDigitChars 10 (Nat.toDigits 10 left) 0 := Nat.ofDigitChars_ten_toDigits.symm
    _ = Nat.ofDigitChars 10 (Nat.toDigits 10 right) 0 := by rw [equal]
    _ = right := Nat.ofDigitChars_ten_toDigits

/-! ### What stands around the parts of a type -/

/-- What may follow a type: nothing, another part, or the end of the parts. -/
def EndsType : List Char → Prop
  | [] => True
  | char :: _ => char = ',' ∨ char = ')' ∨ char = '\x7d'

/-- What may follow a tag and its arguments: another tag, or what may follow a type. -/
def EndsTag : List Char → Prop
  | [] => True
  | char :: rest => char = ' ' ∨ EndsType (char :: rest)

/-- What may follow the name of a tag: its arguments, or what may follow a tag without any. -/
def EndsTagName : List Char → Prop
  | [] => True
  | char :: rest => char = '(' ∨ EndsTag (char :: rest)

/-- The first character of a type or of a name. -/
def StartsPart : List Char → Prop
  | [] => False
  | char :: _ => char = '\x7b' ∨ isNameChar char = true

/-- The text goes on with this character. -/
def GoesOn (expected : Char) : List Char → Prop
  | [] => False
  | char :: _ => char = expected

theorem GoesOn.endsType {char : Char} (closing : EndsType [char]) {rest : List Char}
    (goesOn : GoesOn char rest) : EndsType rest := by
  cases rest with
  | nil => trivial
  | cons => exact Eq.symm goesOn ▸ closing

theorem EndsType.endsTag {rest : List Char} (ends : EndsType rest) : EndsTag rest := by
  cases rest with
  | nil => trivial
  | cons => exact .inr ends

theorem EndsTag.endsTagName {rest : List Char} (ends : EndsTag rest) : EndsTagName rest := by
  cases rest with
  | nil => trivial
  | cons => exact .inr ends

theorem EndsTagName.endsWord {rest : List Char} (ends : EndsTagName rest) : EndsWord rest := by
  cases rest with
  | nil => trivial
  | cons => rcases ends with rfl | rfl | rfl | rfl | rfl <;> rfl

theorem StartsPart.append {text : List Char} (starts : StartsPart text) (rest : List Char) :
    StartsPart (text ++ rest) := by
  cases text with
  | nil => exact nomatch starts
  | cons => exact starts

theorem StartsPart.appendText {text : String} (starts : StartsPart text.toList)
    (further : String) : StartsPart (text ++ further).toList :=
  String.toList_append ▸ starts.append further.toList

theorem StartsPart.not_endsType {text : List Char} (starts : StartsPart text) :
    ¬EndsType text := by
  cases text with
  | nil => exact nomatch starts
  | cons char =>
    rintro (rfl | rfl | rfl) <;> rcases starts with first | inName <;> contradiction

/-! ### Lists of texts -/

section

variable {α : Type} (separator : String) (write : α → String)

/-- The characters of items that follow one another, with a separator before each of them. -/
def continued (items : List α) : List Char :=
  items.flatMap fun item => separator.toList ++ (write item).toList

theorem continued_cons_append (item : α) (items : List α) (rest : List Char) :
    continued separator write (item :: items) ++ rest =
      separator.toList ++ ((write item).toList ++ (continued separator write items ++ rest)) := by
  rw [continued, List.flatMap_cons, List.append_assoc, List.append_assoc]
  rfl

theorem toList_separated_cons (item : α) (items : List α) :
    (Heap.separated separator ((item :: items).map write)).toList =
      (write item).toList ++ continued separator write items := by
  rw [Heap.separated, String.toList_intercalate]
  induction items generalizing item with
  | nil => exact List.intercalate_singleton.trans (List.append_nil _).symm
  | cons next items inductionHypothesis =>
    have later := inductionHypothesis next
    have first := continued_cons_append separator write next items []
    rw [List.append_nil, List.append_nil] at first
    simp only [List.map_cons] at later ⊢
    rw [List.intercalate_cons_cons, later, first, List.append_assoc]

end

/-- What may follow each item of a list, and what may follow the list. -/
structure Layout (separator : String) (item list : List Char → Prop) : Prop where
  more (rest : List Char) : item (separator.toList ++ rest)
  last {rest : List Char} : list rest → item rest
  apart (rest : List Char) : ¬list (separator.toList ++ rest)
  closes {rest : List Char} : list rest → EndsType rest

namespace Layout

variable {α β : Type} {separator : String} {item list : List Char → Prop} {write : α → String}
  {write' : β → String} {related : α → β → Prop} {lefts : List α} {rights : List β}

theorem after (layout : Layout separator item list) (write : α → String) (items : List α)
    {rest : List Char} (may : list rest) : item (continued separator write items ++ rest) := by
  cases items with
  | nil => exact layout.last may
  | cons first items =>
    rw [continued_cons_append]
    exact layout.more _

theorem continued_legible (layout : Layout separator item list)
    (items : ∀ left ∈ lefts, ∀ right ∈ rights,
      Legible item (write left) (write' right) (related left right))
    {rest rest' : List Char} (may : list rest) (may' : list rest')
    (equal : continued separator write lefts ++ rest =
      continued separator write' rights ++ rest') :
    List.Forall₂ related lefts rights ∧ rest = rest' := by
  induction lefts generalizing rights with
  | nil =>
    cases rights with
    | nil => exact ⟨.nil, equal⟩
    | cons right rights =>
      rw [continued_cons_append] at equal
      change rest = _ at equal
      exact absurd (equal ▸ may) (layout.apart _)
  | cons left lefts inductionHypothesis =>
    cases rights with
    | nil =>
      rw [continued_cons_append] at equal
      change _ = rest' at equal
      exact absurd (equal ▸ may') (layout.apart _)
    | cons right rights =>
      rw [continued_cons_append, continued_cons_append] at equal
      obtain ⟨head, equal⟩ := items left List.mem_cons_self right List.mem_cons_self _ _
        (layout.after write lefts may) (layout.after write' rights may')
        (List.append_cancel_left equal)
      obtain ⟨tail, equal⟩ := inductionHypothesis (fun left member right member' =>
        items left (List.mem_cons_of_mem _ member) right (List.mem_cons_of_mem _ member')) equal
      exact ⟨.cons head tail, equal⟩

theorem legible (layout : Layout separator item list)
    (starts : ∀ left ∈ lefts, StartsPart (write left).toList)
    (starts' : ∀ right ∈ rights, StartsPart (write' right).toList)
    (items : ∀ left ∈ lefts, ∀ right ∈ rights,
      Legible item (write left) (write' right) (related left right)) :
    Legible list (Heap.separated separator (lefts.map write))
      (Heap.separated separator (rights.map write')) (List.Forall₂ related lefts rights) := by
  intro rest rest' may may' equal
  cases lefts with
  | nil =>
    cases rights with
    | nil => exact ⟨.nil, equal⟩
    | cons right rights =>
      rw [toList_separated_cons, List.append_assoc] at equal
      change rest = _ at equal
      exact absurd (layout.closes (equal ▸ may))
        ((starts' right List.mem_cons_self).append _).not_endsType
  | cons left lefts =>
    cases rights with
    | nil =>
      rw [toList_separated_cons, List.append_assoc] at equal
      change _ = rest' at equal
      exact absurd (layout.closes (equal ▸ may'))
        ((starts left List.mem_cons_self).append _).not_endsType
    | cons right rights =>
      rw [toList_separated_cons, toList_separated_cons, List.append_assoc, List.append_assoc]
        at equal
      obtain ⟨head, equal⟩ := items left List.mem_cons_self right List.mem_cons_self _ _
        (layout.after write lefts may) (layout.after write' rights may') equal
      obtain ⟨tail, equal⟩ := layout.continued_legible (fun left member right member' =>
        items left (List.mem_cons_of_mem _ member) right (List.mem_cons_of_mem _ member'))
        may may' equal
      exact ⟨.cons head tail, equal⟩

end Layout

/-- The fields of an object are separated by commas and closed by a brace. -/
theorem fields_layout : Layout ", " EndsType (GoesOn '\x7d') where
  more _ := .inl rfl
  last := GoesOn.endsType (.inr (.inr rfl))
  apart _ closes := nomatch (closes : ',' = '\x7d')
  closes := GoesOn.endsType (.inr (.inr rfl))

/-- The arguments of a tag or a function are separated by commas and closed by a parenthesis. -/
theorem arguments_layout : Layout ", " EndsType (GoesOn ')') where
  more _ := .inl rfl
  last := GoesOn.endsType (.inr (.inl rfl))
  apart _ closes := nomatch (closes : ',' = ')')
  closes := GoesOn.endsType (.inr (.inl rfl))

/-- The tags of a variant are separated by bars, and nothing closes them. -/
theorem tags_layout : Layout " | " EndsTag EndsType where
  more _ := .inl rfl
  last := EndsType.endsTag
  apart _ ends := by rcases ends with first | first | first <;> cases first
  closes := id

end CallTyping
