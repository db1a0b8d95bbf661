/-
This file defines the report of an error against the source text it points into:
the headline, the lines of the marked range, and an arrow from the range to what is
said about it. A range within one line is underlined; the first and the last line
of a longer range are joined at the left. A range beyond the text leaves the
headline alone.
-/

import CallTyping.Fault
import CallTyping.Report.Line
import CallTyping.Report.Width

namespace CallTyping

namespace Report

/-- The characters that fill one cell: the first one, and those after it in a wide cell. -/
abbrev Filling := Char × Char

def filledWith (char : Char) : Filling := (char, char)

/-- A row of text, which ends with a line feed. -/
def row (parts : List String) : String := String.join parts ++ "\n"

/-- As many copies of a character. -/
def repeated (count : Nat) (char : Char) : String := String.ofList (List.replicate count char)

/-- The text of a line as it is printed. -/
def Line.printed (line : Line) : String :=
  String.ofList (line.text.mapIdx Report.printed).flatten

/-- The width of a cell below a line; beyond the text every cell is one wide. -/
def Line.cellWidth (line : Line) (column : Nat) : Nat :=
  match line.text[column]? with
  | some char => charWidth column char
  | none => 1

/-- The filling of a cell at its width. -/
def fillCell (width : Nat) (filling : Filling) : List Char :=
  match width with
  | 0 => []
  | more + 1 => filling.1 :: List.replicate more filling.2

/-- Fills as many cells below a line. -/
def Line.cells (line : Line) (count : Nat) (filling : Nat → Filling) : String :=
  String.ofList
    ((List.range count).map fun column => fillCell (line.cellWidth column) (filling column)).flatten

/-- The width of the numbers at the left. -/
def numberWidth (line : Line) : Nat := (toString line.number).length

/-- The empty space at the left of rows without a number. -/
def margin (width : Nat) : String := repeated (width + 2) ' '

/-- A line of the source with its number; an arrow may lead to it. -/
def sourceRow (width : Nat) (arrow : String) (line : Line) : String :=
  let number := toString line.number
  row [" ", repeated (width - number.length) ' ', number, " │ ", arrow, line.printed]

/-- A row below a line of the source. -/
def noteRow (width : Nat) (parts : List String) : String := row (margin width :: "│ " :: parts)

/-- The rows for a range of columns of one line. -/
def shortRange (width : Nat) (line : Line) (start stop : Nat) (body : String) : List String :=
  let middle := (line.firstChar + start + (line.firstChar + stop)) / 2 - line.firstChar
  let mark (column : Nat) : Filling :=
    if column = middle then
      if start = stop then ('│', ' ') else ('┬', '─')
    else if start ≤ column ∧ column < stop then filledWith '─'
    else filledWith ' '
  let lead (column : Nat) : Filling :=
    if column < middle then filledWith ' '
    else if column = middle then ('╰', '─')
    else filledWith '─'
  [sourceRow width "" line,
    noteRow width [line.cells (stop + 2) mark],
    noteRow width [line.cells (stop + 2) lead, " ", body]]

/-- The rows for a range from one line to a later one. -/
def longRange (width : Nat) (first last : Line) (body : String) : List String :=
  let count := last.chars.length + 2
  let gap := if first.number + 1 < last.number then [row [margin width, "┆ ┆   "]] else []
  [sourceRow width "╭─▶ " first] ++ gap ++
    [sourceRow width "├─▶ " last,
      noteRow width ["│   ", last.cells count fun _ => filledWith ' '],
      noteRow width ["╰───", last.cells count fun _ => filledWith '─', " ", body]]

/-- The rows below the headline. -/
def rangeRows (source : List Char) (span : Span) (body : String) : List String :=
  let lines := linesOf source
  let first := lineAt lines span.start
  let last := lineAt lines (if span.start < span.stop then span.stop - 1 else span.start)
  let start := charsBefore span.start source - first.firstChar
  let stop := charsBefore span.stop source - first.firstChar
  let width := numberWidth last
  [row [margin width, "╭─[ <unknown>:", toString first.number, ":", toString (start + 1), " ]"],
    row [margin width, "│"]] ++
    (if first.number = last.number then shortRange width first start stop body
      else longRange width first last body) ++
    [row [repeated (width + 2) '─', "╯"]]

/-- Whether a range lies beyond a text. -/
def isBeyond (source : List Char) (span : Span) : Bool :=
  byteCount source < span.start ||
    (span.start < span.stop && byteCount source < span.stop - 1)

/-- A report on a range of a source text. -/
def render (source : String) (span : Span) (title body : String) : String :=
  let source := source.toList
  let headline := row ["Error: ", title]
  if isBeyond source span then headline
  else headline ++ String.join (rangeRows source span body)

end Report

/-- The report of an error against the text of its file. -/
def TypeError.report (heap : Heap) (source : String) (error : TypeError) : String :=
  Report.render source error.span error.fault.title (error.fault.body heap)

end CallTyping
