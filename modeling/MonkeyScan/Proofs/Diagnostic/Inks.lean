import MonkeyScan.Proofs.Diagnostic.Columns
import MonkeyScan.Proofs.Terminal.Elements
import MonkeyScan.Proofs.Text.Line
import MonkeyScan.Proofs.Text.ReadBack

/-!
# Displays in inks

The inks of a display are sequences around its spans. A display that has no escape of its own is got
back from the coloured one if the sequences are taken out (`makes_unstyled_render`), and a display
has no escape unless its message, its remark, the name or the source has one
(`escape_not_mem_render`).

Neighbours of one ink are joined, so that the coloured spans are not those of the cells. It does not
matter for the second part, as joining changes nothing that is read; and the first part holds of
spans in any order.
-/

namespace MonkeyScan

open Terminal

/-! ## Inks -/

namespace Ink

/-- The parameters of the sequences that turn an ink on. -/
def openings : Ink → List (List UInt8)
  | plain => []
  | severity => [Utf8.bytes "0", Utf8.bytes "1", Utf8.bytes "38;5;9"]
  | title => [Utf8.bytes "1"]
  | frame => [Utf8.bytes "0", Utf8.bytes "34"]
  | mark => [Utf8.bytes "0", Utf8.bytes "31"]

/-- The parameters of the sequences that turn an ink off. -/
def closings : Ink → List (List UInt8)
  | plain => []
  | _ => [Utf8.bytes "0"]

theorem encode_opening (i : Ink) :
    Utf8.bytes i.opening = i.openings.flatMap fun ps => (Element.style ps).bytes := by
  cases i <;> decide +kernel

theorem encode_closing (i : Ink) :
    Utf8.bytes i.closing = i.closings.flatMap fun ps => (Element.style ps).bytes := by
  cases i <;> decide +kernel

theorem isParameter_of_mem_openings (i : Ink) :
    ∀ ps ∈ i.openings, ∀ b ∈ ps, isParameter b = true := by
  cases i <;> decide +kernel

theorem isParameter_of_mem_closings (i : Ink) :
    ∀ ps ∈ i.closings, ∀ b ∈ ps, isParameter b = true := by
  cases i <;> decide +kernel

end Ink

/-- Of sequences alone nothing is left. -/
theorem makes_unstyled_styles {pss : List (List UInt8)}
    (h : ∀ ps ∈ pss, ∀ b ∈ ps, isParameter b = true) :
    Makes unstyled (pss.flatMap fun ps => (Element.style ps).bytes) [] := by
  have hstyles : Makes unstyled (pss.flatMap fun ps => (Element.style ps).bytes)
      (pss.flatMap fun _ => []) := Makes.flatMap fun ps hps => makes_unstyled_style (h ps hps)
  rwa [List.flatMap_eq_nil_iff.2 fun _ _ => rfl] at hstyles

/-! ## Spans -/

namespace Span

theorem makes_unstyled_render (s : Span) (h : '\x1b' ∉ s.chars) :
    Makes unstyled (Utf8.encode (s.render true)) (Utf8.encode (s.render false)) := by
  have hopening := makes_unstyled_styles s.ink.isParameter_of_mem_openings
  have hclosing := makes_unstyled_styles s.ink.isParameter_of_mem_closings
  rw [← Ink.encode_opening] at hopening
  rw [← Ink.encode_closing] at hclosing
  have hspan := (hopening.append (makes_unstyled_encode h)).append hclosing
  rw [List.nil_append, List.append_nil] at hspan
  simp only [render, if_true, Bool.false_eq_true, if_false, Utf8.encode_append]
  exact hspan

theorem not_mem_renderAll_iff {c : Char} {ss : List Span} :
    c ∉ renderAll false ss ↔ ∀ s ∈ ss, c ∉ s.chars := by
  simp [renderAll, render]

theorem makes_unstyled_renderAll {ss : List Span} (h : '\x1b' ∉ renderAll false ss) :
    Makes unstyled (Utf8.encode (renderAll true ss)) (Utf8.encode (renderAll false ss)) := by
  rw [not_mem_renderAll_iff] at h
  rw [renderAll, renderAll, Utf8.encode, Utf8.encode, List.flatMap_assoc, List.flatMap_assoc]
  exact Makes.flatMap fun s hs => s.makes_unstyled_render (h s hs)

end Span

/-! ## Displays -/

namespace Diagnostic

open Text

/-- **Inks and text.** A display without escapes is what is left of it in colour without the
sequences that select a style. -/
theorem makes_unstyled_render {d : Diagnostic} {name : String} {lines : List Line}
    (h : '\x1b' ∉ d.render name lines false) :
    Makes unstyled (Utf8.encode (d.render name lines true))
      (Utf8.encode (d.render name lines false)) := by
  have hrow : ∀ row ∈ d.rows name lines, '\x1b' ∉ Span.renderAll false row := by
    intro row hrow hmem
    exact h (List.mem_flatMap.2 ⟨row, hrow, List.mem_append_left _ hmem⟩)
  have hfeed : Makes unstyled (Utf8.encode ['\n']) (Utf8.encode ['\n']) :=
    makes_unstyled_encode (by decide)
  rw [render, render, Utf8.encode, Utf8.encode, List.flatMap_assoc, List.flatMap_assoc]
  refine Makes.flatMap fun row hmem => ?_
  have hspans := (Span.makes_unstyled_renderAll (hrow row hmem)).append hfeed
  rw [← Utf8.encode_append, ← Utf8.encode_append] at hspans
  exact hspans

/-- A line is shown by its characters, and by blanks for the tabs. -/
theorem Cell.mem_of_mem_shown {column offset : Nat} {cs : List Char} {cell : Cell} {x : Char}
    (h : cell ∈ Cell.row column offset cs) (hx : x ∈ cell.shown) : x = ' ' ∨ x ∈ cs := by
  induction cs generalizing column offset with
  | nil => cases h
  | cons c cs ih =>
    rw [Cell.row, List.mem_cons] at h
    rcases h with rfl | h
    · unfold Cell.ofChar at hx
      split at hx
      · exact .inl (List.eq_of_mem_replicate hx)
      · exact .inr (List.mem_singleton.1 hx ▸ List.mem_cons_self)
    · exact (ih h).imp_right (List.mem_cons_of_mem c)

theorem mem_of_mem_shownChars {l : Line} {x : Char} (h : x ∈ shownChars l) : x ∈ l.chars := by
  obtain ⟨tail, htail, -⟩ := trimEnd_append isLineEnd l.chars
  rw [htail]
  exact List.mem_append_left tail h

theorem escape_not_mem_textRow (d : Diagnostic) {l : Line} (h : '\x1b' ∉ l.chars)
    (column offset : Nat) :
    '\x1b' ∉ Span.renderAll false (d.textRow (Cell.row column offset (shownChars l))) := by
  rw [renderAll_textRow]
  intro hmem
  obtain ⟨cell, hcell, hx⟩ := List.mem_flatMap.1 hmem
  rcases Cell.mem_of_mem_shown hcell hx with hblank | hline
  · exact absurd hblank (by decide)
  · exact h (mem_of_mem_shownChars hline)

theorem escape_not_mem_markRow (d : Diagnostic) (cells : List Cell) :
    '\x1b' ∉ Span.renderAll false (d.markRow cells) := by
  rw [renderAll_markRow]
  intro hmem
  obtain ⟨cell, -, hx⟩ := List.mem_flatMap.1 hmem
  have hmark := List.eq_of_mem_replicate hx
  split at hmark
  · exact absurd hmark (by decide)
  · exact absurd hmark (by decide)

/-- The layout brings no escape into a display. -/
theorem escape_not_mem_render {d : Diagnostic} {name : String} {source : List Char}
    (hmessage : '\x1b' ∉ d.message.toList) (hremark : '\x1b' ∉ d.remark.toList)
    (hname : '\x1b' ∉ name.toList) (hsource : '\x1b' ∉ source) :
    '\x1b' ∉ d.render name (Line.ofSource source) false := by
  have hline : '\x1b' ∉ (Line.containing d.start (Line.ofSource source)).chars :=
    fun h => hsource (Line.mem_of_mem_containing h)
  have hdigits : ∀ n, '\x1b' ∉ Nat.toDigits 10 n := not_mem_toDigits rfl
  rw [render, rows_eq_rowsOn]
  generalize Line.containing d.start (Line.ofSource source) = line at hline
  have hrow : ∀ row ∈ d.rowsOn name line, '\x1b' ∉ Span.renderAll false row := by
    have htext := Span.not_mem_renderAll_iff.1 (escape_not_mem_textRow d hline 0 line.start)
    have hmarks := fun cells => Span.not_mem_renderAll_iff.1 (d.escape_not_mem_markRow cells)
    simp only [Span.not_mem_renderAll_iff, rowsOn, placeRow, List.forall_mem_cons,
      List.forall_mem_append]
    simpa [margin, bar, Span.plain, hname, hmessage, hremark, hdigits, Nat.toString_eq_repr]
      using And.intro htext (hmarks _)
  intro hmem
  obtain ⟨row, hmem, hchar⟩ := List.mem_flatMap.1 hmem
  rcases List.mem_append.1 hchar with hchar | hchar
  · exact hrow row hmem hchar
  · exact absurd hchar (by decide)

end Diagnostic

end MonkeyScan
