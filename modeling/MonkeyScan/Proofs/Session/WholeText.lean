import Mathlib.Data.List.Basic
import MonkeyScan.Proofs.Report
import MonkeyScan.Proofs.Scanner.Lines
import MonkeyScan.Proofs.Utf8
import MonkeyScan.Session

/-!
# Sessions and scans

A session cuts its input into lines as bytes, cleans the end of each line and scans it on its own;
a scan goes through the whole text and counts lines on the way. Both come to the same.

- Lines of bytes are the bytes of lines (`lines_encode`), since no character but the line feed
  has its byte.
- What is cleaned off the end of a line is blank, so that a line has the tokens that it would have
  with its end (`tokens_scanLine`).
- The row of a token does not show where in its text the line stands, and every line but the first
  begins at column 1 wherever it stands (`rows_tokensFrom`).

**Theorem (`run_eq_scan`).** On the bytes of a text and a sink without faults, a session prints
for each line a prompt and the rows of the tokens that a scan of the text has on that line, and
counts the lines, tokens and illegal characters of the text.
-/

namespace MonkeyScan.Session

open Text

/-! ## Lines of input -/

theorem lines_eq (bytes : List UInt8) :
    (⟨bytes, false⟩ : Input).lines = lines 10 bytes := by
  simp only [Input.lines, lines, Bool.false_or, decide_eq_true_eq]

/-- The lines of the bytes of a text are the bytes of its lines. -/
theorem lines_encode (text : List Char) :
    (⟨Utf8.encode text, false⟩ : Input).lines = (lines '\n' text).map Utf8.encode := by
  have hother : ∀ c, c ≠ '\n' → 10 ∉ String.utf8EncodeChar c ∧ String.utf8EncodeChar c ≠ [] := by
    intro c hc
    refine ⟨fun h => hc ?_, ?_⟩
    · exact Char.toNat_inj.1 (Utf8.toNat_eq_of_mem_encodeChar (by decide) h)
    · rw [← List.length_pos_iff, String.length_utf8EncodeChar]
      exact c.utf8Size_pos
  rw [lines_eq]
  exact lines_flatMap String.utf8EncodeChar rfl hother text

/-- Cleaning the end of a line takes no token from it. -/
theorem tokens_scanLine (line : List Char) :
    (scanLine (Utf8.encode line)).tokens = tokensFrom .start line := by
  obtain ⟨tail, hline, htail⟩ := trimEnd_append (fun c => c == '\n' || c == '\r') line
  rw [scanLine, lineText, Utf8.decodeLossy_encode]
  generalize trimEnd _ line = body at hline ⊢
  have hblank : AllBlank tail := by
    intro c hc
    have h := htail c hc
    simp only [Bool.or_eq_true, beq_iff_eq] at h
    rcases h with rfl | rfl <;> rfl
  rw [hline, tokensFrom_append_blanks .start _ hblank]
  rfl

/-! ## Counts -/

theorem Stats.zero_add (s : Stats) : Stats.zero.add s = s := by
  simp only [Stats.add, Stats.zero, Nat.zero_add]

theorem Stats.add_assoc (s t u : Stats) : (s.add t).add u = s.add (t.add u) := by
  simp only [Stats.add, Nat.add_assoc]

theorem Stats.foldl_add (s : Stats) (ss : List Stats) :
    ss.foldl Stats.add s = s.add (ss.foldl Stats.add .zero) := by
  induction ss generalizing s with
  | nil => rfl
  | cons t ss ih =>
    rw [List.foldl_cons, List.foldl_cons, ih, ih (Stats.zero.add t), Stats.zero_add,
      Stats.add_assoc]

theorem stats_cons (line : List UInt8) (rest : List (List UInt8)) :
    stats (line :: rest) = (statsOfLine line).add (stats rest) := by
  rw [stats, List.map_cons, List.foldl_cons, Stats.zero_add, Stats.foldl_add, stats]

/-- The counts of a line do not depend on where it stands. -/
theorem statsOfLine_encode (p : Position) (line : List Char) :
    statsOfLine (Utf8.encode line) =
      ⟨1, (tokensFrom p line).length, ((tokensFrom p line).filter Token.isIllegal).length⟩ := by
  rw [statsOfLine, tokens_scanLine, length_tokensFrom p, length_filter_isIllegal p]

theorem stats_lines (p : Position) (text : List Char) :
    stats ((lines '\n' text).map Utf8.encode) =
      ⟨(lines '\n' text).length, (tokensFrom p text).length,
        ((tokensFrom p text).filter Token.isIllegal).length⟩ := by
  induction text using line_induction '\n' generalizing p with
  | last piece h =>
    by_cases hne : piece = []
    · subst hne
      rw [lines_nil, tokensFrom_blanks allBlank_nil]
      rfl
    · rw [lines_of_not_mem h hne, List.map_singleton, stats_cons, statsOfLine_encode p]
      rfl
  | cons piece rest h ih =>
    rw [lines_append_cons h, List.map_cons, stats_cons, ih (p.nextLine piece),
      statsOfLine_encode p, tokensFrom_line, List.filter_append, List.length_append,
      List.length_append, List.length_cons, Stats.add, Nat.add_comm 1]

/-! ## Rows -/

/-- The token `t`, moved to line `n`. -/
def onLine (n : Nat) (t : Token) : Token := { t with position := { t.position with line := n } }

/-- The rows of tokens that are all on one line, which is the first for the session. -/
def rows (cfg : Config) (coloursShown : Bool) (ts : List Token) : List UInt8 :=
  ts.flatMap fun t => Utf8.bytes (cfg.render coloursShown (onLine 1 t) ++ "\n")

/-- Once a token is put on a given line, all that a text in front of its line adds to its place is
the offset. -/
theorem onLine_shift {p : Position} (hp : p.column = 1) (n : Nat) (t : Token) :
    onLine n (t.shift p) =
      { t with position := ⟨n, t.position.column, t.position.offset + p.offset⟩ } := by
  simp only [onLine, Token.shift, Position.shift, hp, Nat.add_sub_cancel, ite_self]

/-- The rows of a line do not show where it stands. -/
theorem rows_tokensFrom (cfg : Config) (coloursShown : Bool) {p : Position} (hp : p.column = 1)
    (line : List Char) :
    rows cfg coloursShown (tokensFrom p line) =
      rows cfg coloursShown (tokensFrom .start line) := by
  rw [tokensFrom_eq_map_shift p, rows, List.flatMap_map, rows]
  congr 1
  funext t
  rw [onLine_shift hp]
  rfl

/-- An answer writes the rows of the tokens of its line. -/
theorem bytes_answer (cfg : Config) (coloursShown : Bool) (line : List UInt8) :
    (answer cfg coloursShown line).flatMap Effect.bytes =
      (scanLine line).tokens.flatMap fun t => Utf8.bytes (cfg.render coloursShown t ++ "\n") := by
  have hnotes : ∀ rs : List Log.Record, (rs.map Effect.note).flatMap Effect.bytes = [] := by
    intro rs
    rw [List.flatMap_map]
    exact List.flatMap_eq_nil_iff.2 fun _ _ => rfl
  rw [Scanner.Run.tokens, List.flatMap_map, answer, List.flatMap_assoc]
  congr 1
  funext step
  rw [List.flatMap_append, hnotes, List.nil_append, List.flatMap_singleton]
  rfl

theorem output_answer (cfg : Config) (coloursShown : Bool) {line : List Char} (h : '\n' ∉ line) :
    (answer cfg coloursShown (Utf8.encode line)).flatMap Effect.bytes =
      rows cfg coloursShown (tokensFrom .start line) := by
  have hline : ∀ t ∈ tokensFrom .start line, onLine 1 t = t := by
    intro t ht
    have hone : t.position.line = 1 := line_eq_of_mem ht h
    rw [onLine, ← hone]
  rw [bytes_answer, tokens_scanLine, rows]
  exact List.flatMap_congr fun t ht => by rw [hline t ht]

theorem isFlush_answer (cfg : Config) (coloursShown : Bool) (line : List UInt8) :
    (answer cfg coloursShown line).countP Effect.isFlush = 0 := by
  refine List.countP_eq_zero.2 fun e he => ?_
  obtain ⟨step, -, he⟩ := List.mem_flatMap.1 he
  rcases List.mem_append.1 he with he | he
  · obtain ⟨r, -, rfl⟩ := List.mem_map.1 he
    exact Bool.false_ne_true
  · rw [List.mem_singleton.1 he]
    exact Bool.false_ne_true

/-! ## Sessions -/

/-- What a session prints for each line of a text is what a scan of the text has on that line. -/
theorem output_lines (cfg : Config) (coloursShown : Bool) (text : List Char) :
    ((lines '\n' text).map Utf8.encode).flatMap
        (fun line => (ask cfg ++ answer cfg coloursShown line).flatMap Effect.bytes) =
      (List.range (lines '\n' text).length).flatMap fun i =>
        Utf8.bytes cfg.prompt ++
          rows cfg coloursShown (tokensOnLine (i + 1) (tokensFrom .start text)) := by
  rw [List.flatMap_map, List.flatMap_def, List.flatMap_def]
  congr 1
  apply List.ext_getElem
  · rw [List.length_map, List.length_map, List.length_range]
  · intro i hi _
    rw [List.length_map] at hi
    rw [List.getElem_map, List.getElem_map, List.getElem_range, List.flatMap_append,
      output_answer cfg coloursShown (not_mem_of_mem_lines (List.getElem_mem hi))]
    obtain ⟨o, ho⟩ := tokensOnLine_eq (p := .start) rfl (List.getElem?_eq_getElem hi)
    have hone : Position.start.line + i = i + 1 := Nat.add_comm 1 i
    rw [← hone, ho]
    congr 1
    · exact List.append_nil _
    · exact (rows_tokensFrom cfg coloursShown rfl _).symm

theorem flushes_lines (cfg : Config) (coloursShown : Bool) (ls : List (List UInt8)) :
    (ls.flatMap fun line => ask cfg ++ answer cfg coloursShown line).countP Effect.isFlush =
      ls.length := by
  induction ls with
  | nil => rfl
  | cons line ls ih =>
    rw [List.flatMap_cons, List.countP_append, List.countP_append, isFlush_answer, ih,
      List.length_cons]
    show 1 + 0 + ls.length = ls.length + 1
    omega

theorem output_effects (cfg : Config) (coloursShown : Bool) (text : List Char) :
    (effects cfg coloursShown ⟨Utf8.encode text, false⟩).flatMap Effect.bytes =
      ((List.range (lines '\n' text).length).flatMap fun i =>
        Utf8.bytes cfg.prompt ++
          rows cfg coloursShown (tokensOnLine (i + 1) (tokensFrom .start text))) ++
        Utf8.bytes cfg.prompt := by
  have hask : (ask cfg).flatMap Effect.bytes = Utf8.bytes cfg.prompt := List.append_nil _
  rw [effects, lines_encode, if_neg Bool.false_ne_true, List.flatMap_append, List.flatMap_append,
    List.flatMap_assoc, output_lines, hask]
  exact List.append_nil _

theorem flushes_effects (cfg : Config) (coloursShown : Bool) (text : List Char) :
    (effects cfg coloursShown ⟨Utf8.encode text, false⟩).countP Effect.isFlush =
      (lines '\n' text).length + 1 := by
  rw [effects, lines_encode, if_neg Bool.false_ne_true, List.countP_append, List.countP_append,
    flushes_lines, List.length_map]
  rfl

/-- **Sessions print scans.** On the bytes of a text, a session prompts once for each line and once
more, prints behind each prompt the rows of the tokens that a scan of the whole text has on that
line, and ends with the counts of the text. -/
theorem run_eq_scan (cfg : Config) (coloursShown : Bool) (name : String) (text : List Char) :
    let k := text.count '\n' + if text ≠ [] ∧ text.getLast? ≠ some '\n' then 1 else 0
    let outcome := run cfg coloursShown ⟨Utf8.encode text, false⟩ .unlimited
    outcome.result = .ok ⟨k, (scan text).length - 1, (Report.check name text).count⟩ ∧
      outcome.transcript.output =
        ((List.range k).flatMap fun i =>
          Utf8.bytes cfg.prompt ++
            rows cfg coloursShown
              (tokensOnLine (i + 1) ((scan text).filter fun t => !t.isEof))) ++
          Utf8.bytes cfg.prompt ∧
      outcome.transcript.flushes = k + 1 := by
  intro k outcome
  have hk : (lines '\n' text).length = k := length_lines '\n' text
  have hstats : stats ((lines '\n' text).map Utf8.encode) =
      ⟨k, (scan text).length - 1, (Report.check name text).count⟩ := by
    rw [stats_lines .start, hk, Report.count_check, scan_eq, List.length_append]
    rfl
  have hrun : outcome.transcript = _ :=
    Sink.perform_unlimited (effects cfg coloursShown ⟨Utf8.encode text, false⟩)
  refine ⟨?_, ?_, ?_⟩
  · simp only [outcome, run, Sink.perform_unlimited, lines_encode, hstats,
      if_neg Bool.false_ne_true]
  · rw [hrun, filter_not_isEof_scan, ← hk]
    exact output_effects cfg coloursShown text
  · rw [hrun, ← hk]
    exact flushes_effects cfg coloursShown text

end MonkeyScan.Session
