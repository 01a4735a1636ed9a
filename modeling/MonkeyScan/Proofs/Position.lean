import Mathlib.Data.List.DropRight
import MonkeyScan.Position

/-!
# Places, counted

The line of a place is counted by line feeds (`advanceAll_line`), its column by the characters
behind the last of them and its offset by bytes: `behind cs` counts all three in the text `cs` in
front of the place, and reading `cs` from the start leads there (`advanceAll_start`).

Reading leads forward. Of two places of a text, the one that is reached from the other has the
greater offset and stands on a later line, or further along the same line (`Reaches.before`).

A text that stands at `p` and not at the start has all its places shifted by `p`: offsets and lines
are moved by as much, and columns only on its first line, since every later line begins at column 1
wherever the text stands (`shift_advanceAll`).
-/

namespace MonkeyScan.Position

theorem advance_newline (p : Position) : p.advance '\n' = ⟨p.line + 1, 1, p.offset + 1⟩ := rfl

theorem advanceAll_line (p : Position) (cs : List Char) :
    (p.advanceAll cs).line = p.line + cs.count '\n' := by
  induction cs generalizing p with
  | nil => rfl
  | cons c cs ih =>
    rw [advanceAll_cons, ih, List.count_cons, advance]
    by_cases hc : c = '\n'
    · simp only [hc, if_true, beq_self_eq_true]
      omega
    · simp [hc]

theorem advanceAll_line_of_not_mem (p : Position) {cs : List Char} (h : '\n' ∉ cs) :
    (p.advanceAll cs).line = p.line := by
  rw [advanceAll_line, List.count_eq_zero.2 h, Nat.add_zero]

/-! ## Places by the text in front of them -/

/-- The place behind the text `cs`, counted in it. The column counts what follows the last line
feed, or the whole text if there is none. -/
def behind (cs : List Char) : Position where
  line := 1 + cs.count '\n'
  column := 1 + (cs.rtakeWhile (· ≠ '\n')).length
  offset := Utf8.size cs

theorem advance_behind (cs : List Char) (c : Char) :
    (behind cs).advance c = behind (cs ++ [c]) := by
  by_cases hc : c = '\n'
  · have hsize : ('\n').utf8Size = 1 := rfl
    simp [hc, advance_newline, behind, hsize, Nat.add_assoc]
  · simp [hc, advance, behind, Nat.add_assoc]

theorem advanceAll_behind (cs ds : List Char) :
    (behind cs).advanceAll ds = behind (cs ++ ds) := by
  induction ds generalizing cs with
  | nil => simp
  | cons d ds ih =>
    rw [advanceAll_cons, advance_behind, ih, List.append_assoc, List.singleton_append]

theorem advanceAll_start (cs : List Char) : start.advanceAll cs = behind cs :=
  advanceAll_behind [] cs

/-! ## The order of places -/

/-- Some text that is not empty leads from `p` to `q`. -/
def Reaches (p q : Position) : Prop := ∃ c cs, q = p.advanceAll (c :: cs)

/-- The place `p` is on an earlier line than `q`, or at a lesser column of the same line. -/
def Before (p q : Position) : Prop := p.line < q.line ∨ (p.line = q.line ∧ p.column < q.column)

theorem Before.trans {p q r : Position} (h : p.Before q) (h' : q.Before r) : p.Before r := by
  unfold Before at *
  omega

theorem Before.line_column_ne {p q : Position} (h : p.Before q) :
    (p.line, p.column) ≠ (q.line, q.column) := by
  intro heq
  obtain ⟨hline, hcolumn⟩ := Prod.mk.inj heq
  rcases h with hlt | ⟨-, hlt⟩
  · exact Nat.ne_of_lt hlt hline
  · exact Nat.ne_of_lt hlt hcolumn

theorem before_advance (p : Position) (c : Char) : p.Before (p.advance c) := by
  unfold Before advance
  split
  · exact Or.inl (Nat.lt_succ_self _)
  · exact Or.inr ⟨rfl, Nat.lt_succ_self _⟩

theorem reaches_advanceAll (p : Position) {cs : List Char} (h : cs ≠ []) :
    p.Reaches (p.advanceAll cs) := by
  obtain ⟨c, ds, rfl⟩ := List.exists_cons_of_ne_nil h
  exact ⟨c, ds, rfl⟩

namespace Reaches

variable {p q : Position}

theorem before (h : p.Reaches q) : p.Before q := by
  obtain ⟨c, cs, rfl⟩ := h
  induction cs generalizing p c with
  | nil => exact p.before_advance c
  | cons d ds ih => exact (p.before_advance c).trans (ih d)

theorem offset_lt (h : p.Reaches q) : p.offset < q.offset := by
  obtain ⟨c, cs, rfl⟩ := h
  have hpos := c.utf8Size_pos
  rw [advanceAll_offset, Utf8.size_cons]
  omega

end Reaches

/-! ## Shifted places -/

/-- The place `q` of a text that itself stands at `p`. -/
def shift (p q : Position) : Position where
  line := q.line + p.line - 1
  column := if q.line = 1 then q.column + p.column - 1 else q.column
  offset := q.offset + p.offset

/-- Lines and columns are counted from 1. -/
def Counted (p : Position) : Prop := 1 ≤ p.line ∧ 1 ≤ p.column

theorem counted_start : Counted start := ⟨Nat.le_refl 1, Nat.le_refl 1⟩

theorem Counted.advance {p : Position} (h : Counted p) (c : Char) : Counted (p.advance c) := by
  unfold Position.advance
  split
  · exact ⟨Nat.le_add_left 1 _, Nat.le_refl 1⟩
  · exact ⟨h.1, Nat.le_add_left 1 _⟩

theorem Counted.advanceAll {p : Position} (h : Counted p) (cs : List Char) :
    Counted (p.advanceAll cs) := by
  induction cs generalizing p with
  | nil => exact h
  | cons c cs ih => exact ih (h.advance c)

theorem shift_start (p : Position) : p.shift start = p := by
  simp [shift, start]

theorem shift_advance (p : Position) {q : Position} (hq : Counted q) (c : Char) :
    p.shift (q.advance c) = (p.shift q).advance c := by
  obtain ⟨hline, hcolumn⟩ := hq
  by_cases hc : c = '\n'
  · simp only [shift, advance, hc, if_true, Position.mk.injEq]
    refine ⟨by omega, if_neg (by omega), by omega⟩
  · simp only [shift, advance, hc, if_false, Position.mk.injEq, true_and]
    refine ⟨?_, by omega⟩
    split <;> omega

theorem shift_advanceAll (p : Position) {q : Position} (hq : Counted q) (cs : List Char) :
    p.shift (q.advanceAll cs) = (p.shift q).advanceAll cs := by
  induction cs generalizing q with
  | nil => rfl
  | cons c cs ih => rw [advanceAll_cons, ih (hq.advance c), shift_advance p hq, advanceAll_cons]

end MonkeyScan.Position
