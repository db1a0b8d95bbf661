/-
This file divides a source text into lines. A line keeps its line end and knows
where it starts, both in bytes and in characters; spans are given in bytes and
columns are counted in characters.
-/

import CallTyping.Report.Blank

namespace CallTyping

namespace Report

/-- A line of a source text; lines are numbered from one. -/
structure Line where
  number : Nat
  firstByte : Nat
  firstChar : Nat
  chars : List Char
  deriving Inhabited

/-- Whether a line ends with this character when these ones follow. -/
def endsLine (char : Char) (rest : List Char) : Bool :=
  isLineEnd char && !(char = '\r' && rest.head? = some '\n')

/-- The lines with their ends; after the last line end no further line starts. -/
def splitLines : List Char → List (List Char)
  | [] => []
  | char :: rest =>
    if endsLine char rest then [char] :: splitLines rest
    else
      match splitLines rest with
      | [] => [[char]]
      | line :: more => (char :: line) :: more

/-- The number of bytes in which characters are stored. -/
def byteCount : List Char → Nat
  | [] => 0
  | char :: rest => char.utf8Size + byteCount rest

/-- Gives lines their places, the first of them starting here. -/
def placeLines : Nat → Nat → Nat → List (List Char) → List Line
  | _, _, _, [] => []
  | number, firstByte, firstChar, chars :: rest =>
    ⟨number, firstByte, firstChar, chars⟩ ::
      placeLines (number + 1) (firstByte + byteCount chars) (firstChar + chars.length) rest

/-- The lines of a source text; an empty text has one empty line. -/
def linesOf (source : List Char) : List Line :=
  placeLines 1 0 0 (if source.isEmpty then [[]] else splitLines source)

/-- The line with a byte: the last one that does not start after it. -/
def lineAt (lines : List Line) (byte : Nat) : Line :=
  ((lines.filter fun line => line.firstByte ≤ byte).getLast?).getD default

/-- The number of characters that start before a byte. -/
def charsBefore : Nat → List Char → Nat
  | 0, _ => 0
  | _, [] => 0
  | byte + 1, char :: rest => charsBefore (byte + 1 - char.utf8Size) rest + 1

/-- The text of a line without the white space at its end. -/
def Line.text (line : Line) : List Char := (line.chars.reverse.dropWhile isBlank).reverse

/-- No character is lost or added when a text is divided. -/
theorem flatten_splitLines (source : List Char) : (splitLines source).flatten = source := by
  induction source with
  | nil => rfl
  | cons char rest inductionHypothesis =>
    unfold splitLines
    split
    · simp [inductionHypothesis]
    · split
      next equal =>
        rw [equal] at inductionHypothesis
        simpa using congrArg (char :: ·) inductionHypothesis
      next line more equal =>
        rw [equal] at inductionHypothesis
        simpa using congrArg (char :: ·) inductionHypothesis

end Report

end CallTyping
