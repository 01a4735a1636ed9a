import MonkeyScan.Diagnostic
import MonkeyScan.Diagnostic.Span
import MonkeyScan.Text.Line
import MonkeyScan.Text.Trim
import MonkeyScan.Text.Width

/-!
# Diagnostics beside their source

A diagnostic is shown as a title, the place with the file's name, the source line that the place
is on, and marks under the characters that the message is about. The place is worked out from the
bytes of the source alone.

A source line is laid out as cells, one for each character: what is shown of it, the columns that
takes, and the bytes it stands for. The same cells make the row of the text and the row of marks,
so that each mark stands under its character.
-/

namespace MonkeyScan.Diagnostic

open Text

/-! ## Cells -/

structure Cell where
  shown : List Char
  width : Nat
  start : Nat
  stop : Nat
deriving DecidableEq

/-- Tabs reach to the next column that is a multiple of this. -/
def tabWidth : Nat := 4

/-- The cell of a character at a display column and a byte offset. -/
def Cell.ofChar (column offset : Nat) (c : Char) : Cell :=
  if c = '\t' then
    let w := tabWidth - column % tabWidth
    ⟨List.replicate w ' ', w, offset, offset + c.utf8Size⟩
  else ⟨[c], Text.width c, offset, offset + c.utf8Size⟩

/-- The cells of a text that begins at a display column and a byte offset. -/
def Cell.row (column offset : Nat) : List Char → List Cell
  | [] => []
  | c :: cs =>
    let cell := Cell.ofChar column offset c
    cell :: Cell.row (column + cell.width) cell.stop cs

/-- The place of one byte and one column behind a text, where the end of a text can be marked. -/
def Cell.behind (offset : Nat) : Cell := ⟨[], 1, offset, offset + 1⟩

/-- Whether the diagnostic is about one of the cell's bytes. -/
def covers (d : Diagnostic) (cell : Cell) : Bool := cell.start < d.stop && d.start < cell.stop

/-! ## Rows -/

/-- The number of the column, in characters from 1, that byte `offset` of a line is in. -/
def columnAt (l : Line) (offset : Nat) : Nat :=
  ((Cell.row 0 l.start l.chars).filter (·.stop ≤ offset)).length + 1

/-- Characters that are not shown where they end a line. -/
def isLineEnd (c : Char) : Bool := c == '\n' || c == '\r' || c == '\x00'

def shownChars (l : Line) : List Char := trimEnd isLineEnd l.chars

def inkOf (d : Diagnostic) (cell : Cell) : Ink := if d.covers cell then .mark else .plain

/-- The text of the line, with the covered characters in the ink of marks. -/
def textRow (d : Diagnostic) (cells : List Cell) : List Span :=
  Span.join (cells.map fun cell => ⟨d.inkOf cell, cell.shown⟩)

/-- A mark for each column of a covered cell, and blanks up to the last of them. -/
def markRow (d : Diagnostic) (cells : List Cell) : List Span :=
  Span.join ((cells.filter (·.start < d.stop)).map fun cell =>
    ⟨d.inkOf cell, List.replicate cell.width (if d.covers cell then '^' else ' ')⟩)

/-- The blanks in front of the bar of a row without a number. -/
def margin (l : Line) : Span :=
  ⟨.plain, List.replicate ((toString l.number).length + 1) ' '⟩

def bar : Span := ⟨.frame, ['│']⟩

/-- The row of the file's name and the place in it. -/
def placeRow (d : Diagnostic) (name : String) (l : Line) : List Span :=
  [margin l, ⟨.frame, "┌─".toList⟩,
    .plain (" " ++ name ++ ":" ++ toString l.number ++ ":" ++ toString (columnAt l d.start))]

/-- The rows of the display, an empty one at its end. -/
def rows (d : Diagnostic) (name : String) (lines : List Line) : List (List Span) :=
  let line := Line.containing d.start lines
  let chars := shownChars line
  let cells := Cell.row 0 line.start chars
  let behind := Cell.behind (line.start + Utf8.size chars)
  [[⟨.severity, "error".toList⟩, ⟨.title, ": ".toList ++ d.message.toList⟩],
    d.placeRow name line,
    [margin line, bar],
    [⟨.frame, (toString line.number).toList⟩, .plain " ", bar, .plain " "] ++ d.textRow cells,
    [margin line, bar, .plain " "] ++ d.markRow (cells ++ [behind]) ++
      [.plain " ", ⟨.mark, d.remark.toList⟩],
    []]

/-- The text of the display. -/
def render (d : Diagnostic) (name : String) (lines : List Line) (coloured : Bool) : List Char :=
  (d.rows name lines).flatMap fun row => Span.renderAll coloured row ++ ['\n']

end MonkeyScan.Diagnostic
