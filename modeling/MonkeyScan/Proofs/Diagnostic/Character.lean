import MonkeyScan.Proofs.Diagnostic.Columns
import MonkeyScan.Proofs.Position
import MonkeyScan.Proofs.Text.Line

/-!
# The display of one character

A source that is cut around a character is cut into the lines in front of it, the text in front of
it on its line, the text behind it there, and the lines behind. The display depends on its line
alone (`rows_illegal`), and without colours its rows are texts in which nothing but the marks is
left open (`map_renderAll_rowsOn`). Where the character has columns of its own, it is no part of a
tail that is not shown, and the marks stand under it (`marksUnder_character`).
-/

namespace MonkeyScan

open Text

/-! ## Rows as text -/

namespace Diagnostic

/-- The rows of a display as texts, from what is to be read in them: the message, the place, the
line as it is shown, the marks and the remark beside them. -/
def textRows (message name : String) (number column : Nat) (line marks : List Char)
    (remark : String) : List (List Char) :=
  let margin := List.replicate ((toString number).length + 1) ' '
  [("error: " ++ message).toList,
    margin ++ ("┌─ " ++ name ++ ":" ++ toString number ++ ":" ++ toString column).toList,
    margin ++ ['│'],
    (toString number ++ " │ ").toList ++ line,
    margin ++ "│ ".toList ++ marks ++ (" " ++ remark).toList,
    []]

/-- The marks that a diagnostic sets under a line with the cells of `chars`. -/
def marksUnder (d : Diagnostic) (chars : List Char) : List Char :=
  Span.renderAll false (d.markRow (Cell.row 0 0 chars ++ [Cell.behind (Utf8.size chars)]))

/-- Without colours, what is read in the display of a line. -/
theorem map_renderAll_rowsOn (d : Diagnostic) (name : String) (number : Nat) (chars : List Char) :
    (d.rowsOn name ⟨number, 0, chars⟩).map (Span.renderAll false) =
      textRows d.message name number (columnAt ⟨number, 0, chars⟩ d.start)
        (expandTabs (trimEnd isLineEnd chars)) (d.marksUnder (trimEnd isLineEnd chars))
        d.remark := by
  have htext : (d.textRow (Cell.row 0 0 (trimEnd isLineEnd chars))).flatMap (Span.render false) =
      expandTabs (trimEnd isLineEnd chars) :=
    (renderAll_textRow d _).trans (shown_row 0 _)
  simp [rowsOn, textRows, marksUnder, htext, shownChars, placeRow, Span.renderAll, Span.render,
    margin, bar, Span.plain]

theorem width_of_isLineEnd {c : Char} (h : isLineEnd c = true) : width c = 0 := by
  simp only [isLineEnd, Bool.or_eq_true, beq_iff_eq] at h
  rcases h with (rfl | rfl) | rfl <;> decide +kernel

/-- A character with columns of its own is shown, and the marks stand under it. -/
theorem marksUnder_character {head tail : List Char} {c : Char} (hc : c ≠ '\t')
    (hwidth : width c ≠ 0) :
    (IllegalCharacter.diagnostic ⟨c, .behind head⟩).marksUnder
        (trimEnd isLineEnd (head ++ c :: tail)) =
      List.replicate (columns (expandTabs head)) ' ' ++ List.replicate (width c) '^' := by
  have hshown : ¬ isLineEnd c = true := fun h => hwidth (width_of_isLineEnd h)
  have htrim : trimEnd isLineEnd (head ++ c :: tail) = head ++ c :: trimEnd isLineEnd tail :=
    rdropWhile_append_cons hshown head tail
  rw [htrim, marksUnder]
  exact renderAll_markRow_character hc rfl rfl

end Diagnostic

/-! ## The line of a character -/

/-- What is said of an illegal character tells its place by the offset alone. -/
theorem diagnostic_behind_append (before head : List Char) (c : Char) :
    IllegalCharacter.diagnostic ⟨c, .behind (before ++ head)⟩ =
      (IllegalCharacter.diagnostic ⟨c, .behind head⟩).shift (Utf8.size before) := by
  unfold IllegalCharacter.diagnostic Diagnostic.shift
  simp only [Position.behind, Utf8.size_append]
  rw [Diagnostic.mk.injEq]
  exact ⟨rfl, rfl, Nat.add_assoc _ _ _, rfl⟩

/-- The display of an illegal character does not depend on the lines in front of its own, but for
their number, nor on those behind. -/
theorem rows_illegal {before head tail behind : List Char} {c : Char} (hbefore : Line.Ended before)
    (hline : '\n' ∉ head ++ c :: tail) (hbehind : Line.Begun behind) (name : String) :
    (IllegalCharacter.diagnostic ⟨c, .behind (before ++ head)⟩).rows name
        (Line.ofSource (before ++ (head ++ c :: tail ++ behind))) =
      (IllegalCharacter.diagnostic ⟨c, .behind head⟩).rowsOn name
        ⟨1 + before.count '\n', 0, head ++ c :: tail⟩ := by
  have hstart : ((IllegalCharacter.diagnostic ⟨c, .behind head⟩).shift (Utf8.size before)).start =
      Utf8.size before + Utf8.size head := by
    simp only [Diagnostic.shift, IllegalCharacter.diagnostic, Position.behind]
  have hle : Utf8.size before + Utf8.size head ≤
      Utf8.size before + Utf8.size (head ++ c :: tail) := by
    rw [Utf8.size_append]
    omega
  rw [diagnostic_behind_append, Diagnostic.rows_eq_rowsOn, hstart,
    Line.containing_ofSource hbefore hline hbehind (Nat.le_add_right _ _) hle]
  exact Diagnostic.rowsOn_shift (Utf8.size before) _ name _ 0 _

theorem Position.rtakeWhile_ended_append {before head : List Char} (hbefore : Line.Ended before)
    (hhead : '\n' ∉ head) : (before ++ head).rtakeWhile (· ≠ '\n') = head := by
  induction head using List.reverseRecOn with
  | nil =>
    rw [List.append_nil, List.rtakeWhile_eq_nil_iff]
    intro hne
    rcases hbefore with rfl | hfeed
    · exact absurd rfl hne
    · rw [List.getLast?_eq_some_getLast hne] at hfeed
      simp [Option.some.inj hfeed]
  | append_singleton head c ih =>
    rw [List.mem_append, List.mem_singleton, not_or] at hhead
    have hrun := List.rtakeWhile_concat_pos (· ≠ '\n') (before ++ head) c
      (decide_eq_true (Ne.symm hhead.2))
    rw [← List.append_assoc, hrun, ih hhead.1]

/-- A place behind whole lines and a part of another is on the line behind them, at the column
behind that part. -/
theorem Position.behind_ended_append {before head : List Char} (hbefore : Line.Ended before)
    (hhead : '\n' ∉ head) :
    (behind (before ++ head)).line = 1 + before.count '\n' ∧
      (behind (before ++ head)).column = 1 + head.length := by
  have hline : (before ++ head).count '\n' = before.count '\n' := by
    rw [List.count_append, List.count_eq_zero.2 hhead, Nat.add_zero]
  rw [behind, rtakeWhile_ended_append hbefore hhead, hline]
  exact ⟨rfl, rfl⟩

/-- The line that is cut out of a source is the piece with the number of lines in front of it. -/
theorem Text.Line.getElem?_split {before line behind : List Char} (hbefore : Ended before)
    (hline : '\n' ∉ line) (hbehind : Begun behind) :
    (split '\n' (before ++ (line ++ behind)))[before.count '\n']? = some line := by
  induction before using line_induction '\n' with
  | last piece h =>
    obtain rfl := hbefore.eq_nil_of_not_mem h
    rcases hbehind with rfl | hhead
    · rw [List.append_nil, List.nil_append, split_of_not_mem hline]
      rfl
    · obtain ⟨rest, rfl⟩ := List.head?_eq_some_iff.1 hhead
      rw [List.nil_append, split_append_cons hline]
      rfl
  | cons piece rest h ih =>
    have hcount : (piece ++ '\n' :: rest).count '\n' = rest.count '\n' + 1 := by
      rw [List.count_append, List.count_eq_zero.2 h, List.count_cons_self, Nat.zero_add]
    rw [List.append_assoc, List.cons_append, split_append_cons h, hcount, List.getElem?_cons_succ,
      ih hbefore.of_append_cons]

end MonkeyScan
