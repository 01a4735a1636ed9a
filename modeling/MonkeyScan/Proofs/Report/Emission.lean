import MonkeyScan.Proofs.Diagnostic.Inks
import MonkeyScan.Proofs.Sink
import MonkeyScan.Report

/-!
# Writing a report

A report may be filled by hand with errors that have nothing to do with its source.

**Theorem (`emit_added`).** What is written of it is what would be written of its errors one by one,
in colour or not, and the colours are sequences in the text without colour. A sink without room for
all of it gets the beginning, as far as it has room, wherever in a diagnostic that is.

The errors are written one after the other, and no display leaves an escape open for the next one.
So all of it follows from what holds of one display (`Diagnostic.makes_unstyled_render`) and of a
list of writes on a sink (`Sink.perform_of_full`, `Sink.perform_of_fits`).
-/

namespace MonkeyScan

/-- A quoted character is printable, whatever the character is. -/
theorem Text.isPrintable_of_mem_quoteChar {c x : Char} (h : x ∈ (quoteChar c).toList) :
    isPrintable x = true := by
  have hdelimiter : isPrintable '\'' = true := by decide +kernel
  rw [quoteChar, String.toList_ofList, List.mem_append, List.mem_cons, List.mem_singleton] at h
  rcases h with (rfl | h) | rfl
  · exact hdelimiter
  · exact isPrintable_of_mem_escape hdelimiter h
  · exact hdelimiter

/-- Writes have no flushes among them. -/
theorem Effect.marks_map_write (bss : List (List UInt8)) : marks (bss.map .write) = [] := by
  induction bss with
  | nil => rfl
  | cons bs bss ih => rw [List.map_cons, marks, ih, List.map_nil]

namespace Report

/-! ## Displays -/

/-- No error has an escape in its display but for those of the name and the source. -/
theorem escape_not_mem_display {name : String} {source : List Char} (hname : '\x1b' ∉ name.toList)
    (hsource : '\x1b' ∉ source) (e : IllegalCharacter) :
    '\x1b' ∉ e.diagnostic.render name (Text.Line.ofSource source) false := by
  have hmessage : '\x1b' ∉ ("illegal character " ++ Text.quoteChar e.char).toList := by
    have hescape : Text.isPrintable '\x1b' = false := by decide +kernel
    rw [String.toList_append, List.mem_append, not_or]
    refine ⟨by decide, fun hmem => ?_⟩
    rw [Text.isPrintable_of_mem_quoteChar hmem] at hescape
    cases hescape
  have hremark : '\x1b' ∉ "not part of any token".toList := by decide
  exact Diagnostic.escape_not_mem_render hmessage hremark hname hsource

/-- The displays one after the other. -/
def written (r : Report) (coloured : Bool) : List UInt8 :=
  (r.displays coloured).flatMap Utf8.encode

theorem written_eq (r : Report) (coloured : Bool) :
    r.written coloured = r.errors.flatMap fun e => written ⟨r.name, r.source, [e]⟩ coloured := by
  rw [written, displays, List.flatMap_map]
  congr 1
  funext e
  exact (List.append_nil _).symm

/-- The colours of a report are sequences in what it is without colour. -/
theorem unstyled_written {r : Report} (hname : '\x1b' ∉ r.name.toList)
    (hsource : '\x1b' ∉ r.source) : Terminal.unstyled (r.written true) = r.written false := by
  simp only [written, displays, List.flatMap_map]
  refine Makes.eq (Makes.flatMap fun e _ => ?_) rfl
  exact Diagnostic.makes_unstyled_render (escape_not_mem_display hname hsource e)

/-! ## Sinks -/

theorem bytes_writes (r : Report) (coloured : Bool) :
    ((r.displays coloured).map fun cs => Effect.write (Utf8.encode cs)).flatMap Effect.bytes =
      r.written coloured := by
  rw [List.flatMap_map]
  rfl

theorem marks_writes (r : Report) (coloured : Bool) :
    Effect.marks ((r.displays coloured).map fun cs => .write (Utf8.encode cs)) = [] := by
  have hmarks := Effect.marks_map_write ((r.displays coloured).map Utf8.encode)
  rwa [List.map_map] at hmarks

theorem output_emit_of_fits {r : Report} {coloured : Bool} {sink : Sink}
    (h : ∀ n ∈ sink.room, (r.written coloured).length ≤ n) :
    (r.emit coloured sink).output = r.written coloured ∧ (r.emit coloured sink).fault = none := by
  have hflush : ∀ k, sink.failingFlush = some (k + 1) → (Effect.marks
      ((r.displays coloured).map fun cs => .write (Utf8.encode cs))).length ≤ k := by
    intro k _
    rw [marks_writes]
    exact Nat.zero_le k
  rw [← bytes_writes] at h
  rw [emit, Sink.perform_of_fits h hflush, Sink.perform_unlimited, bytes_writes]
  exact ⟨rfl, rfl⟩

theorem output_emit (r : Report) (coloured : Bool) :
    (r.emit coloured .unlimited).output = r.written coloured := by
  have hroom : ∀ n ∈ Sink.unlimited.room, (r.written coloured).length ≤ n := by
    intro n hn
    cases hn
  exact (output_emit_of_fits hroom).1

theorem output_emit_of_full {r : Report} {coloured : Bool} {sink : Sink} {n : Nat}
    (hroom : sink.room = some n) (hn : n < (r.written coloured).length) :
    (r.emit coloured sink).output = (r.written coloured).take n ∧
      (r.emit coloured sink).fault = some .sinkFull := by
  rw [← bytes_writes] at hn
  obtain ⟨houtput, -, hfault⟩ := Sink.perform_of_full hroom hn fun k m _ hm => by
    rw [marks_writes] at hm
    cases hm
  rw [bytes_writes] at houtput
  exact ⟨houtput, hfault⟩

/-! ## Reports that are filled by hand -/

theorem foldl_add (r : Report) (es : List IllegalCharacter) :
    es.foldl add r = { r with errors := r.errors ++ es } := by
  induction es generalizing r with
  | nil => rw [List.foldl_nil, List.append_nil]
  | cons e es ih =>
    rw [List.foldl_cons, ih, add, List.append_assoc]
    rfl

/-- **Writing a report.** A report that any errors are added to holds these errors, and the whole of
what is written is what is written of each of them alone, in their order. In colour it is the text
without colour and sequences that select a style, if the name and the source bring no escapes. On a
sink with room the whole is written; otherwise as much of it as there is room for, and the sink is
full. Writing gives no other report, so that the whole can still be written afterwards. -/
theorem emit_added (name : String) (source : List Char) (es : List IllegalCharacter) :
    let r := es.foldl add (empty name source)
    let whole (coloured : Bool) := (r.emit coloured .unlimited).output
    r.errors = es ∧
    (∀ coloured, whole coloured =
      es.flatMap fun e => (((empty name source).add e).emit coloured .unlimited).output) ∧
    ('\x1b' ∉ name.toList → '\x1b' ∉ source → Terminal.unstyled (whole true) = whole false) ∧
    ∀ coloured sink,
      ((∀ n ∈ sink.room, (whole coloured).length ≤ n) →
        (r.emit coloured sink).output = whole coloured ∧ (r.emit coloured sink).fault = none) ∧
      ∀ n ∈ sink.room, n < (whole coloured).length →
        (r.emit coloured sink).output = (whole coloured).take n ∧
          (r.emit coloured sink).fault = some .sinkFull := by
  intro r whole
  have hr : r = ⟨name, source, es⟩ := foldl_add _ es
  have hwhole : whole = r.written := funext fun coloured => output_emit r coloured
  rw [hwhole, hr]
  refine ⟨rfl, fun coloured => ?_, fun hname hsource => unstyled_written hname hsource,
    fun coloured sink => ⟨output_emit_of_fits, fun n hn => output_emit_of_full hn⟩⟩
  simp only [output_emit]
  exact written_eq _ coloured

end Report

end MonkeyScan
