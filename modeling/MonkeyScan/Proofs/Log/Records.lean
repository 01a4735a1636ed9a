import MonkeyScan.Proofs.Log
import MonkeyScan.Proofs.Session.WholeText

/-!
# The log and the results

What a scan notes can be read off what it gives. `Token.records` are the records on one token, from
its literal and its place: the scanner makes them before there is a literal, from the character in
front of it, and the errors of a report make their messages of the literal once more.

**Theorem (`log_agrees`).** The log of a scan are the records on its tokens, of which the graver
ones are the messages of the report, in the same order. The log of a session are those of the scans
of its lines, and one record on their number behind them.

The end token is not noted, so that it makes no difference how often it is asked for.
-/

namespace MonkeyScan

namespace Log

theorem upTo_trace (rs : List Record) : upTo .trace rs = rs := by
  refine List.filter_eq_self.2 fun r _ => ?_
  cases r.level <;> rfl

theorem upTo_append (l : Level) (rs ss : List Record) :
    upTo l (rs ++ ss) = upTo l rs ++ upTo l ss :=
  List.filter_append ..

theorem upTo_flatMap {α : Type} (l : Level) (f : α → List Record) (xs : List α) :
    upTo l (xs.flatMap f) = xs.flatMap fun x => upTo l (f x) :=
  List.filter_flatMap

end Log

/-! ## Records on tokens -/

/-- What the log holds on a token: the character that it holds, if it is illegal, and the token
itself. -/
def Token.records (t : Token) : List Log.Record :=
  (if t.isIllegal then
    t.literal.toList.map fun c => ⟨.debug, .scanner,
      "illegal character " ++ Text.quoteChar c ++ " at " ++ t.position.text⟩
  else []) ++ [⟨.trace, .scanner, "scanned " ++ t.listing⟩]

/-- The record on an error of a report. -/
def IllegalCharacter.record (e : IllegalCharacter) : Log.Record := ⟨.debug, .scanner, e.message⟩

namespace Scanner

theorem notes_stepOver (s : Scanner) (c : Char) (cs : List Char) :
    (s.stepOver c cs).notes = (s.stepOver c cs).token.records := by
  have hfront := Lexeme.front_first c cs
  simp only [stepOver]
  generalize Lexeme.first c cs = l at hfront ⊢
  cases hfront with
  | illegal =>
    simp [Token.records, Lexeme.token, Lexeme.literal, Token.isIllegal, illegalNote, tokenNote]
  | keyword | ident | int | symbol =>
    simp [Token.records, Lexeme.token, Token.isIllegal, tokenNote]

/-- A step notes the token that it gives, unless that is the end token. -/
theorem notes_step (s : Scanner) :
    s.step.notes = if s.step.token.isEof then [] else s.step.token.records := by
  cases hrest : s.skipBlanks.rest with
  | nil =>
    rw [if_pos ((step_token_eof_iff s).2 hrest), step_of_nil hrest]
    rfl
  | cons c cs =>
    have heof : ¬ s.step.token.isEof = true := by
      rw [step_token_eof_iff, hrest]
      exact List.cons_ne_nil c cs
    rw [if_neg heof, step_of_cons hrest, notes_stepOver]

/-- A run notes the tokens that it gives. -/
theorem notes_run (s : Scanner) : s.run.notes = s.run.tokens.flatMap Token.records := by
  fun_induction run s with
  | case1 s heof =>
    rw [Run.notes, notes_step, if_pos heof]
    rfl
  | case2 s heof hlt rest ih =>
    rw [Run.notes] at ih
    rw [Run.notes, Run.tokens, List.flatMap_cons, List.map_cons, List.flatMap_cons, notes_step,
      if_neg heof, List.append_assoc, ih]
    rfl

end Scanner

theorem scanLog_eq (source : List Char) :
    scanLog source = (tokensFrom .start source).flatMap Token.records :=
  Scanner.notes_run (.ofSource source)

/-- Up to the level of what is illegal, the log on a token is the record on its error, if it has
one. -/
theorem upTo_debug_records {p : Position} {cs : List Char} {t : Token} (h : t ∈ tokensFrom p cs) :
    Log.upTo .debug t.records =
      ((IllegalCharacter.ofToken? t).map IllegalCharacter.record).toList := by
  cases hillegal : t.isIllegal with
  | false =>
    rw [IllegalCharacter.ofToken?_eq_none_of_not_isIllegal hillegal, Token.records, hillegal]
    rfl
  | true =>
    obtain ⟨c, hc⟩ := literal_of_isIllegal h hillegal
    have herror : IllegalCharacter.ofToken? t = some ⟨c, t.position⟩ := by
      simp [IllegalCharacter.ofToken?, hillegal, hc]
    rw [herror, Token.records, hillegal, hc, String.toList_ofList]
    rfl

/-- Up to that level, the log of a scan are the messages of the report. -/
theorem upTo_debug_scanLog (name : String) (source : List Char) :
    Log.upTo .debug (scanLog source) =
      (Report.check name source).errors.map IllegalCharacter.record := by
  have herrors : (Report.check name source).errors =
      (tokensFrom .start source).filterMap IllegalCharacter.ofToken? := rfl
  rw [scanLog_eq, Log.upTo_flatMap, herrors, List.map_filterMap, List.filterMap_eq_flatMap_toList]
  exact List.flatMap_congr fun t ht => upTo_debug_records ht

theorem upTo_info_scanLog (source : List Char) : Log.upTo .info (scanLog source) = [] := by
  refine List.filter_eq_nil_iff.2 fun r hr => ?_
  have hlt := Scanner.detail_of_mem_run hr
  rw [decide_eq_true_eq]
  exact Nat.not_le.2 hlt

/-! ## Records of sessions -/

namespace Session

theorem notes_ask (cfg : Config) : (ask cfg).filterMap Effect.note? = [] := rfl

/-- An answer notes what the scan of its line notes. -/
theorem notes_answer (cfg : Config) (coloursShown : Bool) (line : List UInt8) :
    (answer cfg coloursShown line).filterMap Effect.note? = scanLog (lineText line) := by
  have hlast : (scanLine line).last.notes = [] := by
    rw [scanLine, Scanner.ofSource, Scanner.run_last]
    rfl
  rw [scanLog, Scanner.Run.notes, answer, List.filterMap_flatMap]
  show _ = (scanLine line).steps.flatMap Scanner.Step.notes ++ (scanLine line).last.notes
  rw [hlast, List.append_nil]
  congr 1
  funext step
  have hnotes : (step.notes.map Effect.note).filterMap Effect.note? = step.notes := by
    rw [List.filterMap_map]
    exact List.filterMap_some
  rw [List.filterMap_append, hnotes]
  exact List.append_nil _

theorem notes_effects (cfg : Config) (coloursShown : Bool) (bytes : List UInt8) :
    (effects cfg coloursShown ⟨bytes, false⟩).filterMap Effect.note? =
      ((Text.lines 10 bytes).flatMap fun line => scanLog (lineText line)) ++
        [closingNote (stats (Text.lines 10 bytes))] := by
  rw [effects, lines_eq, if_neg Bool.false_ne_true, List.filterMap_append, List.filterMap_append,
    notes_ask, List.append_nil, List.filterMap_flatMap]
  congr 2
  funext line
  rw [List.filterMap_append, notes_ask, notes_answer, List.nil_append]

end Session

/-- **The log and the results.** All that is noted of a scan are the records on its tokens, the end
token apart, and an illegal token holds one character. Without the tokens themselves these are the
messages of the errors, and nothing is graver. Asking for the end token once more is not noted.

All that is noted of a session is what is noted of the scans of its lines and then, once, how many
lines it has answered. -/
theorem log_agrees (name : String) (source : List Char) (cfg : Session.Config)
    (coloursShown : Bool) (bytes : List UInt8) :
    (Log.upTo .trace (scanLog source) =
        ((scan source).filter fun t => !t.isEof).flatMap Token.records ∧
      (∀ t ∈ scan source, t.isIllegal = true → ∃ c, t.literal = String.ofList [c]) ∧
      Log.upTo .debug (scanLog source) =
        (Report.check name source).errors.map (fun e => ⟨.debug, .scanner, e.message⟩) ∧
      Log.upTo .info (scanLog source) = [] ∧
      (Scanner.ofSource source).run.after.step.notes = []) ∧
    let outcome := Session.run cfg coloursShown ⟨bytes, false⟩ .unlimited
    ∃ stats, outcome.result = .ok stats ∧ ∀ l, l = .trace ∨ l = .debug →
      Log.upTo l outcome.transcript.notes =
        ((Text.lines 10 bytes).flatMap fun line =>
          Log.upTo l (scanLog (Session.lineText line))) ++
        [⟨.debug, .session, "input closed after " ++ toString stats.lines ++ " lines"⟩] := by
  refine ⟨⟨?_, fun t ht hillegal => ?_, upTo_debug_scanLog name source, upTo_info_scanLog source,
    ?_⟩, Session.stats (Text.lines 10 bytes), ?_, fun l hl => ?_⟩
  · rw [Log.upTo_trace, scanLog_eq, filter_not_isEof_scan]
  · rw [scan_eq, List.mem_append, List.mem_singleton] at ht
    rcases ht with ht | rfl
    · exact literal_of_isIllegal ht hillegal
    · cases hillegal
  · rw [Scanner.Run.after, Scanner.ofSource, Scanner.run_last]
    rfl
  · simp only [Session.run, Sink.perform_unlimited, Session.lines_eq, if_neg Bool.false_ne_true]
  · have hclosing (n : Session.Stats) :
        Log.upTo l [Session.closingNote n] = [Session.closingNote n] := by
      rcases hl with rfl | rfl <;> rfl
    simp only [Session.run, Sink.perform_unlimited, Session.notes_effects, Log.upTo_append,
      Log.upTo_flatMap, hclosing]
    rfl

end MonkeyScan
