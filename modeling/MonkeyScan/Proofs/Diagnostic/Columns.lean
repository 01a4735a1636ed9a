import Mathlib.Algebra.GroupWithZero.Nat
import MonkeyScan.Proofs.Diagnostic.Layout

/-!
# The columns of a display

What a display shows of a line, read without its layout: `expandTabs` puts blanks for each tab, up
to the next tab stop behind what is shown already, and `columns` counts what a shown text takes.
The cells of a line show the same text in the same columns (`shown_row`, `width_row`).

**Theorem (`renderAll_markRow_character`).** The row of marks under a character has one mark for
each of its columns, and in front of them a blank for each column of the text in front of it. The
cells in front of the character end where it begins, so that they are not covered and give blanks;
those behind it begin where it ends, so that they give nothing.
-/

namespace MonkeyScan.Diagnostic

open Text

/-! ## Shown text -/

/-- The columns that a text takes where it is shown. -/
def columns (shown : List Char) : Nat := (shown.map width).sum

/-- The text `shown` with `c` behind it. A tab is shown as blanks up to the next tab stop. -/
def showBehind (shown : List Char) (c : Char) : List Char :=
  if c = '\t' then shown ++ List.replicate (tabWidth - columns shown % tabWidth) ' '
  else shown ++ [c]

/-- What is shown of a text. -/
def expandTabs (cs : List Char) : List Char := cs.foldl showBehind []

theorem columns_append (cs ds : List Char) : columns (cs ++ ds) = columns cs + columns ds := by
  simp [columns]

theorem columns_blanks (n : Nat) : columns (List.replicate n ' ') = n := by
  have hblank : width ' ' = 1 := by decide +kernel
  simp [columns, hblank]

theorem columns_showBehind (shown : List Char) (offset : Nat) (c : Char) :
    columns (showBehind shown c) =
      columns shown + (Cell.ofChar (columns shown) offset c).width := by
  unfold showBehind Cell.ofChar
  by_cases hc : c = '\t'
  · simp [hc, columns_append, columns_blanks]
  · simp [hc, columns]

theorem showBehind_eq (shown : List Char) (offset : Nat) (c : Char) :
    showBehind shown c = shown ++ (Cell.ofChar (columns shown) offset c).shown := by
  unfold showBehind Cell.ofChar
  by_cases hc : c = '\t'
  · simp [hc]
  · simp [hc]

/-- The cells behind a text that is shown already show what comes behind it. -/
theorem foldl_showBehind (shown : List Char) (offset : Nat) (cs : List Char) :
    cs.foldl showBehind shown =
      shown ++ (Cell.row (columns shown) offset cs).flatMap Cell.shown := by
  induction cs generalizing shown offset with
  | nil => simp [Cell.row]
  | cons c cs ih =>
    rw [List.foldl_cons, ih _ (Cell.ofChar (columns shown) offset c).stop, columns_showBehind,
      showBehind_eq shown offset c, Cell.row, List.flatMap_cons, List.append_assoc]

theorem shown_row (offset : Nat) (cs : List Char) :
    (Cell.row 0 offset cs).flatMap Cell.shown = expandTabs cs := by
  have h := foldl_showBehind [] offset cs
  rw [List.nil_append] at h
  exact h.symm

/-- The columns behind a text that is shown already are those that its cells take. -/
theorem columns_foldl (shown : List Char) (offset : Nat) (cs : List Char) :
    columns (cs.foldl showBehind shown) =
      columns shown + ((Cell.row (columns shown) offset cs).map Cell.width).sum := by
  induction cs generalizing shown offset with
  | nil => simp [Cell.row]
  | cons c cs ih =>
    rw [List.foldl_cons, ih _ (Cell.ofChar (columns shown) offset c).stop,
      columns_showBehind shown offset, Cell.row, List.map_cons, List.sum_cons, Nat.add_assoc]

theorem width_row (offset : Nat) (cs : List Char) :
    ((Cell.row 0 offset cs).map Cell.width).sum = columns (expandTabs cs) := by
  have h := columns_foldl [] offset cs
  rw [expandTabs, h]
  exact (Nat.zero_add _).symm

/-! ## Cells in front of a place and behind it -/

theorem Cell.ofChar_start (column offset : Nat) (c : Char) :
    (Cell.ofChar column offset c).start = offset := by
  unfold Cell.ofChar
  split
  · rfl
  · rfl

/-- A cell lies within the bytes of its text. -/
theorem Cell.bounds_of_mem_row {column offset : Nat} {cs : List Char} {cell : Cell}
    (h : cell ∈ Cell.row column offset cs) :
    offset ≤ cell.start ∧ cell.start < cell.stop ∧ cell.stop ≤ offset + Utf8.size cs := by
  induction cs generalizing column offset with
  | nil => cases h
  | cons c cs ih =>
    have hpos := c.utf8Size_pos
    have hstart := Cell.ofChar_start column offset c
    have hstop := Cell.ofChar_stop column offset c
    rw [Cell.row, List.mem_cons] at h
    rw [Utf8.size_cons]
    rcases h with rfl | h
    · omega
    · obtain ⟨hle, hlt, hge⟩ := ih h
      omega

theorem Cell.row_append (column offset : Nat) (cs ds : List Char) :
    Cell.row column offset (cs ++ ds) =
      Cell.row column offset cs ++
        Cell.row (column + ((Cell.row column offset cs).map Cell.width).sum)
          (offset + Utf8.size cs) ds := by
  induction cs generalizing column offset with
  | nil => simp [Cell.row]
  | cons c cs ih =>
    have hstop := Cell.ofChar_stop column offset c
    simp [Cell.row, ih, hstop, Nat.add_assoc]

variable {d : Diagnostic}

/-- The cells of a text that ends where the diagnostic begins, or in front of it, are not
covered, but count for the row of marks. -/
theorem before_of_mem_row {column offset : Nat} {cs : List Char} (hd : d.start < d.stop)
    (hend : offset + Utf8.size cs ≤ d.start) {cell : Cell} (h : cell ∈ Cell.row column offset cs) :
    cell.start < d.stop ∧ d.covers cell = false := by
  obtain ⟨-, hlt, hge⟩ := Cell.bounds_of_mem_row h
  have hcovers : ¬ (cell.start < d.stop ∧ d.start < cell.stop) := by omega
  refine ⟨by omega, ?_⟩
  simpa [covers] using hcovers

theorem not_lt_of_mem_row {column offset : Nat} {cs : List Char} (hbegin : d.stop ≤ offset)
    {cell : Cell} (h : cell ∈ Cell.row column offset cs) : ¬ cell.start < d.stop := by
  obtain ⟨hle, -, -⟩ := Cell.bounds_of_mem_row h
  omega

/-! ## Marks -/

/-- What a cell gives to the row of marks. -/
def markOf (d : Diagnostic) (cell : Cell) : List Char :=
  List.replicate cell.width (if d.covers cell then '^' else ' ')

theorem renderAll_textRow (d : Diagnostic) (cells : List Cell) :
    Span.renderAll false (d.textRow cells) = cells.flatMap Cell.shown := by
  rw [textRow, Span.renderAll_join, Span.renderAll, List.flatMap_map]
  rfl

theorem renderAll_markRow (d : Diagnostic) (cells : List Cell) :
    Span.renderAll false (d.markRow cells) =
      (cells.filter (·.start < d.stop)).flatMap d.markOf := by
  rw [markRow, Span.renderAll_join, Span.renderAll, List.flatMap_map]
  rfl

/-- Cells that are not covered give a blank for each of their columns. -/
theorem flatMap_markOf {cells : List Cell} (h : ∀ cell ∈ cells, d.covers cell = false) :
    cells.flatMap d.markOf = List.replicate (cells.map Cell.width).sum ' ' := by
  induction cells with
  | nil => rfl
  | cons cell cells ih =>
    have hcell : d.markOf cell = List.replicate cell.width ' ' := by
      simp [markOf, h cell List.mem_cons_self]
    rw [List.flatMap_cons, hcell, ih fun x hx => h x (List.mem_cons_of_mem cell hx),
      List.map_cons, List.sum_cons, List.replicate_append_replicate]

/-- Of the cells of a line, those up to the character of the diagnostic have marks. -/
theorem filter_row_character {head tail : List Char} {c : Char} (hc : c ≠ '\t')
    (hstart : d.start = Utf8.size head) (hstop : d.stop = Utf8.size head + c.utf8Size) :
    (Cell.row 0 0 (head ++ c :: tail) ++
        [Cell.behind (Utf8.size (head ++ c :: tail))]).filter (·.start < d.stop) =
      Cell.row 0 0 head ++ [⟨[c], width c, d.start, d.stop⟩] := by
  have hpos := c.utf8Size_pos
  have hfront : (Cell.row 0 0 head).filter (·.start < d.stop) = Cell.row 0 0 head := by
    refine List.filter_eq_self.2 fun cell h => decide_eq_true ?_
    exact (before_of_mem_row (by omega) (by omega) h).1
  have hback (column : Nat) : (Cell.row column d.stop tail).filter (·.start < d.stop) = [] := by
    refine List.filter_eq_nil_iff.2 fun cell h => ?_
    simpa using not_lt_of_mem_row (Nat.le_refl _) h
  have hbehind : d.stop ≤ Utf8.size head + (c.utf8Size + Utf8.size tail) := by omega
  have hcell (column : Nat) :
      Cell.ofChar column (0 + Utf8.size head) c = ⟨[c], width c, d.start, d.stop⟩ := by
    rw [Nat.zero_add, hstart, hstop]
    exact if_neg hc
  have hlt : d.start < d.stop := by omega
  rw [Cell.row_append, Cell.row, hcell]
  simp [hfront, hback, hlt, Cell.behind, hbehind]

/-- **Marks under a character.** The row of marks for a diagnostic on one character that is no
tab. -/
theorem renderAll_markRow_character {head tail : List Char} {c : Char} (hc : c ≠ '\t')
    (hstart : d.start = Utf8.size head) (hstop : d.stop = Utf8.size head + c.utf8Size) :
    Span.renderAll false (d.markRow (Cell.row 0 0 (head ++ c :: tail) ++
        [Cell.behind (Utf8.size (head ++ c :: tail))])) =
      List.replicate (columns (expandTabs head)) ' ' ++ List.replicate (width c) '^' := by
  have hpos := c.utf8Size_pos
  have hfront : ∀ cell ∈ Cell.row 0 0 head, d.covers cell = false :=
    fun cell h => (before_of_mem_row (by omega) (by omega) h).2
  have hmark : d.markOf ⟨[c], width c, d.start, d.stop⟩ = List.replicate (width c) '^' := by
    have hlt : d.start < d.stop := by omega
    simp [markOf, covers, hlt]
  rw [renderAll_markRow, filter_row_character hc hstart hstop, List.flatMap_append,
    flatMap_markOf hfront, width_row, List.flatMap_singleton, hmark]

end MonkeyScan.Diagnostic
