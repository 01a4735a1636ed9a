import MonkeyScan.Diagnostic.Layout

/-!
# What a display depends on

The display of a diagnostic is settled by the line that it is on (`rowsOn`). Of that line it shows
the number and the characters, and where the line begins in the source does not matter as long as
the diagnostic is as far behind it (`rowsOn_shift`): offsets are only compared with one another.

The column of a place is counted by the characters in front of it (`columnAt_append`), so that what
follows the place is shown, but not counted (`rowsOn_congr`).
-/

namespace MonkeyScan.Diagnostic

open Text

/-- The rows of the display for the line that the diagnostic is on. -/
def rowsOn (d : Diagnostic) (name : String) (line : Line) : List (List Span) :=
  let chars := shownChars line
  let cells := Cell.row 0 line.start chars
  let behind := Cell.behind (line.start + Utf8.size chars)
  [[⟨.severity, "error".toList⟩, ⟨.title, ": ".toList ++ d.message.toList⟩],
    d.placeRow name line,
    [margin line, bar],
    [⟨.frame, (toString line.number).toList⟩, .plain " ", bar, .plain " "] ++ d.textRow cells,
    [margin line, bar, .plain " "] ++ d.markRow (cells ++ [behind]) ++
      [.plain " ", ⟨.mark, d.remark.toList⟩],
    []]

theorem rows_eq_rowsOn (d : Diagnostic) (name : String) (lines : List Line) :
    d.rows name lines = d.rowsOn name (Line.containing d.start lines) := rfl

/-! ## Bytes further on -/

/-- The cell `k` bytes further on. -/
def Cell.shift (k : Nat) (cell : Cell) : Cell :=
  { cell with start := k + cell.start, stop := k + cell.stop }

/-- The diagnostic `k` bytes further on. -/
def shift (k : Nat) (d : Diagnostic) : Diagnostic :=
  { d with start := k + d.start, stop := k + d.stop }

theorem Cell.ofChar_shift (k column offset : Nat) (c : Char) :
    Cell.ofChar column (k + offset) c = (Cell.ofChar column offset c).shift k := by
  unfold Cell.ofChar
  split
  · simp only [Cell.shift, Nat.add_assoc]
  · simp only [Cell.shift, Nat.add_assoc]

theorem Cell.row_shift (k column offset : Nat) (cs : List Char) :
    Cell.row column (k + offset) cs = (Cell.row column offset cs).map (Cell.shift k) := by
  induction cs generalizing column offset with
  | nil => rfl
  | cons c cs ih =>
    rw [Cell.row, Cell.ofChar_shift, Cell.row, List.map_cons, ← ih]
    rfl

theorem covers_shift (k : Nat) (d : Diagnostic) (cell : Cell) :
    (d.shift k).covers (cell.shift k) = d.covers cell := by
  simp only [covers, shift, Cell.shift, Nat.add_lt_add_iff_left]

theorem inkOf_shift (k : Nat) (d : Diagnostic) (cell : Cell) :
    (d.shift k).inkOf (cell.shift k) = d.inkOf cell := by
  rw [inkOf, inkOf, covers_shift]

theorem textRow_shift (k : Nat) (d : Diagnostic) (cells : List Cell) :
    (d.shift k).textRow (cells.map (Cell.shift k)) = d.textRow cells := by
  rw [textRow, textRow, List.map_map]
  congr 2
  funext cell
  rw [Function.comp, inkOf_shift]
  rfl

theorem markRow_shift (k : Nat) (d : Diagnostic) (cells : List Cell) :
    (d.shift k).markRow (cells.map (Cell.shift k)) = d.markRow cells := by
  have hstart : (fun cell : Cell => decide (cell.start < (d.shift k).stop)) ∘ Cell.shift k =
      fun cell => decide (cell.start < d.stop) := by
    funext cell
    simp only [Function.comp, shift, Cell.shift, Nat.add_lt_add_iff_left]
  rw [markRow, markRow, List.filter_map, hstart, List.map_map]
  congr 2
  funext cell
  rw [Function.comp, inkOf_shift, covers_shift]
  rfl

theorem columnAt_shift (k number start : Nat) (chars : List Char) (offset : Nat) :
    columnAt ⟨number, k + start, chars⟩ (k + offset) = columnAt ⟨number, start, chars⟩ offset := by
  have hstop : (fun cell : Cell => decide (cell.stop ≤ k + offset)) ∘ Cell.shift k =
      fun cell => decide (cell.stop ≤ offset) := by
    funext cell
    simp only [Function.comp, Cell.shift, Nat.add_le_add_iff_left]
  simp only [columnAt, Cell.row_shift, List.filter_map, hstop, List.length_map]

/-- A line and a diagnostic on it can stand anywhere in a source. -/
theorem rowsOn_shift (k : Nat) (d : Diagnostic) (name : String) (number start : Nat)
    (chars : List Char) :
    (d.shift k).rowsOn name ⟨number, k + start, chars⟩ = d.rowsOn name ⟨number, start, chars⟩ := by
  have hplace : (d.shift k).placeRow name ⟨number, k + start, chars⟩ =
      d.placeRow name ⟨number, start, chars⟩ := by
    have hcolumn := columnAt_shift k number start chars d.start
    simp only [placeRow, shift, hcolumn]
    rfl
  have hcells (cells : List Cell) (n : Nat) :
      cells.map (Cell.shift k) ++ [Cell.behind (k + n)] =
        (cells ++ [Cell.behind n]).map (Cell.shift k) := by
    rw [List.map_append]
    rfl
  simp only [rowsOn, hplace, shownChars, Cell.row_shift, textRow_shift, Nat.add_assoc, hcells,
    markRow_shift]
  rfl

/-! ## Columns -/

theorem Cell.ofChar_stop (column offset : Nat) (c : Char) :
    (Cell.ofChar column offset c).stop = offset + c.utf8Size := by
  unfold Cell.ofChar
  split
  · rfl
  · rfl

theorem Cell.lt_stop_of_mem_row {column offset : Nat} {cs : List Char} {cell : Cell}
    (h : cell ∈ Cell.row column offset cs) : offset < cell.stop := by
  induction cs generalizing column offset with
  | nil => cases h
  | cons c cs ih =>
    have hpos := c.utf8Size_pos
    have hstop := Cell.ofChar_stop column offset c
    rw [Cell.row, List.mem_cons] at h
    rcases h with rfl | h
    · omega
    · have hlt := ih h
      omega

/-- The cells that end in front of a place are those of the characters in front of it. -/
theorem Cell.length_filter_row (column offset : Nat) (cs ds : List Char) :
    ((Cell.row column offset (cs ++ ds)).filter (·.stop ≤ offset + Utf8.size cs)).length =
      cs.length := by
  induction cs generalizing column offset with
  | nil =>
    rw [List.length_nil, List.length_eq_zero_iff, List.filter_eq_nil_iff]
    intro cell hcell
    have hlt := Cell.lt_stop_of_mem_row hcell
    rw [Utf8.size_nil, decide_eq_true_eq]
    omega
  | cons c cs ih =>
    have hstop := Cell.ofChar_stop column offset c
    have hkeep : decide ((Cell.ofChar column offset c).stop ≤ offset + Utf8.size (c :: cs)) =
        true := by
      rw [hstop, Utf8.size_cons, decide_eq_true_eq]
      omega
    have hih := ih (column + (Cell.ofChar column offset c).width) (offset + c.utf8Size)
    rw [List.cons_append, Cell.row, List.filter_cons, if_pos hkeep, List.length_cons, hstop,
      Utf8.size_cons, ← Nat.add_assoc, hih, List.length_cons]

/-- The column behind a part of a line is counted by the characters of that part. -/
theorem columnAt_append (number start : Nat) (cs ds : List Char) :
    columnAt ⟨number, start, cs ++ ds⟩ (start + Utf8.size cs) = cs.length + 1 := by
  rw [columnAt, Cell.length_filter_row]

/-- What follows a diagnostic on its line counts only as far as it is shown. -/
theorem rowsOn_congr (d : Diagnostic) (name : String) (number : Nat) {start : Nat}
    {cs ds es : List Char} (hstart : d.start = start + Utf8.size cs)
    (hshown : trimEnd isLineEnd (cs ++ ds) = trimEnd isLineEnd (cs ++ es)) :
    d.rowsOn name ⟨number, start, cs ++ ds⟩ = d.rowsOn name ⟨number, start, cs ++ es⟩ := by
  have hplace : d.placeRow name ⟨number, start, cs ++ ds⟩ =
      d.placeRow name ⟨number, start, cs ++ es⟩ := by
    simp only [placeRow, hstart, columnAt_append]
    rfl
  simp only [rowsOn, hplace, shownChars, hshown]
  rfl

end MonkeyScan.Diagnostic
