import MonkeyScan.Proofs.Session.WholeText
import MonkeyScan.Proofs.Utf8.Ascii

/-!
# Sessions on ill-formed input

A session cuts its input into lines as bytes and decodes each line on its own. It comes to the same
to decode all of the input first: a line feed is ASCII, so that it ends whatever ill-formed part
stands in front of it and begins none behind it (`lines_decodeLossy`).

**Theorem (`run_decodeLossy`).** A session on any bytes runs like one on their text, in which each
ill-formed part is replaced. For a session knows its input only by the texts of its lines
(`run_congr`), and decoding the bytes of a text gives the text back.
-/

namespace MonkeyScan.Session

open Text

/-! ## What a session knows of its input -/

/-- What is settled by the texts of lines is the same for lines with the same texts. -/
theorem map_eq_of_lineText {β : Type} {f : List UInt8 → β}
    (hf : ∀ l m, lineText l = lineText m → f l = f m) {ls ms : List (List UInt8)}
    (h : ls.map lineText = ms.map lineText) : ls.map f = ms.map f := by
  induction ls generalizing ms with
  | nil => rw [List.map_eq_nil_iff.1 h.symm]
  | cons l ls ih =>
    obtain ⟨m, ms, rfl, hm, hms⟩ := List.map_eq_cons_iff.1 h.symm
    rw [List.map_cons, List.map_cons, hf l m hm.symm, ih hms.symm]

theorem stats_congr {ls ms : List (List UInt8)} (h : ls.map lineText = ms.map lineText) :
    stats ls = stats ms := by
  have hline : ∀ l m, lineText l = lineText m → statsOfLine l = statsOfLine m := by
    intro l m hlm
    rw [statsOfLine, statsOfLine, scanLine, scanLine, hlm]
  rw [stats, stats, map_eq_of_lineText hline h]

theorem effects_congr {i j : Input} (h : i.lines.map lineText = j.lines.map lineText)
    (hend : i.failsAtEnd = j.failsAtEnd) (cfg : Config) (coloursShown : Bool) :
    effects cfg coloursShown i = effects cfg coloursShown j := by
  have hline : ∀ l m, lineText l = lineText m →
      ask cfg ++ answer cfg coloursShown l = ask cfg ++ answer cfg coloursShown m := by
    intro l m hlm
    rw [answer, answer, scanLine, scanLine, hlm]
  rw [effects, effects, List.flatMap_def, List.flatMap_def, map_eq_of_lineText hline h,
    stats_congr h, hend]

/-- Inputs with the same texts in their lines make for the same session. -/
theorem run_congr {i j : Input} (h : i.lines.map lineText = j.lines.map lineText)
    (hend : i.failsAtEnd = j.failsAtEnd) (cfg : Config) (coloursShown : Bool) (sink : Sink) :
    run cfg coloursShown i sink = run cfg coloursShown j sink := by
  simp only [run, effects_congr h hend, stats_congr h, hend]

/-! ## Lines of any bytes -/

/-- The texts of the lines of any bytes are the lines of their text. -/
theorem lines_decodeLossy (bytes : List UInt8) :
    (lines 10 bytes).map Utf8.decodeLossy = lines '\n' (Utf8.decodeLossy bytes) := by
  induction bytes using line_induction (10 : UInt8) with
  | last piece h =>
    by_cases hne : piece = []
    · subst hne
      rw [lines_nil, Utf8.decodeLossy_eq_nil_iff.2 rfl]
      rfl
    · have hnone := Utf8.newline_not_mem_decodeLossy h
      have hne' : Utf8.decodeLossy piece ≠ [] :=
        fun hnil => hne (Utf8.decodeLossy_eq_nil_iff.1 hnil)
      rw [lines_of_not_mem h hne, lines_of_not_mem hnone hne', List.map_singleton]
  | cons piece rest h ih =>
    rw [lines_append_cons h, Utf8.decodeLossy_append_newline,
      lines_append_cons (Utf8.newline_not_mem_decodeLossy h), List.map_cons, ih]

/-- **Ill-formed input.** A session on any bytes is one on the bytes of their text, with a
replacement character for each ill-formed part, whatever the sink. -/
theorem run_decodeLossy (cfg : Config) (coloursShown : Bool) (bytes : List UInt8) (sink : Sink) :
    run cfg coloursShown ⟨Utf8.encode (Utf8.decodeLossy bytes), false⟩ sink =
      run cfg coloursShown ⟨bytes, false⟩ sink := by
  have htexts : (⟨Utf8.encode (Utf8.decodeLossy bytes), false⟩ : Input).lines.map lineText =
      (⟨bytes, false⟩ : Input).lines.map lineText := by
    rw [lines_encode, lines_eq, ← lines_decodeLossy, List.map_map, List.map_map]
    refine List.map_congr_left fun line _ => ?_
    simp only [Function.comp, lineText, Utf8.decodeLossy_encode]
  exact run_congr htexts rfl cfg coloursShown sink

end MonkeyScan.Session
