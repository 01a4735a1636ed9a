import Mathlib.Data.List.Forall2
import MonkeyScan.Proofs.Scanner.Lines
import MonkeyScan.Proofs.Text.LineEnds

/-!
# Scanning texts with line ends of two characters

A carriage return in front of a line feed is a blank at the end of a line. Without it the line has
the same tokens in the same columns, and only what is behind the line begins a byte earlier. So a
source and the source without these returns have the same tokens one by one
(`forall₂_scan_dropReturns`), each behind the same text, but for its returns (`Retold`); line and
column of a place are not changed by them (`behind_dropReturns`), and the offset is less by their
number (`size_dropReturns`).
-/

namespace MonkeyScan

open Text

/-! ## Places -/

/-- Reading a text without its returns leads to the same line and column. Until a line feed that
comes next, the column may be another one. -/
theorem Position.advanceAll_dropReturns {p q : Position} (cs : List Char)
    (hline : p.line = q.line) (hcolumn : cs.head? ≠ some '\n' → p.column = q.column) :
    (p.advanceAll cs).line = (q.advanceAll (dropReturns cs)).line ∧
      (p.advanceAll cs).column = (q.advanceAll (dropReturns cs)).column := by
  induction cs generalizing p q with
  | nil => exact ⟨hline, hcolumn (by simp)⟩
  | cons c cs ih =>
    by_cases hpair : c = '\r' ∧ cs.head? = some '\n'
    · rw [dropReturns, if_pos hpair, advanceAll_cons]
      refine ih ?_ fun hhead => absurd hpair.2 hhead
      rw [hpair.1]
      exact hline
    · rw [dropReturns, if_neg hpair, advanceAll_cons, advanceAll_cons]
      by_cases hc : c = '\n'
      · subst hc
        exact ih (congrArg (· + 1) hline) fun _ => rfl
      · have hsame : p.column = q.column := hcolumn fun h => hc (Option.some.inj h)
        simp only [advance, if_neg hc]
        exact ih hline fun _ => congrArg (· + 1) hsame

theorem Position.behind_dropReturns (cs : List Char) :
    (behind (dropReturns cs)).line = (behind cs).line ∧
      (behind (dropReturns cs)).column = (behind cs).column := by
  have h := advanceAll_dropReturns (p := .start) (q := .start) cs rfl fun _ => rfl
  rw [advanceAll_start, advanceAll_start] at h
  exact ⟨h.1.symm, h.2.symm⟩

/-! ## Tokens of one text at two places -/

/-- The tokens of a text are the same wherever it stands, each behind the same part of it. -/
theorem forall₂_tokensFrom (p q : Position) (text : List Char) :
    List.Forall₂ (fun t t' => ∃ u c cs, text = u ++ c :: cs ∧ isBlank c = false ∧
      t = (Lexeme.first c cs).token (p.advanceAll u) ∧
      t' = (Lexeme.first c cs).token (q.advanceAll u)) (tokensFrom p text) (tokensFrom q text) := by
  induction text using Scanner.text_induction generalizing p q with
  | blanks g hg =>
    rw [tokensFrom_blanks hg, tokensFrom_blanks hg]
    exact .nil
  | lexeme g c cs tail hg hc htail ih =>
    rw [tokensFrom_lexeme hg hc htail, tokensFrom_lexeme hg hc htail]
    refine .cons ⟨g, c, cs, rfl, hc, rfl, rfl⟩ ((ih _ _).imp ?_)
    rintro t t' ⟨u, d, ds, rfl, hd, rfl, rfl⟩
    refine ⟨g ++ (Lexeme.first c cs).chars ++ u, d, ds, ?_, hd, ?_, ?_⟩
    · rw [htail]
      simp only [List.append_assoc]
    · rw [Position.advanceAll_append p (g ++ _)]
    · rw [Position.advanceAll_append q (g ++ _)]

/-! ## Tokens with and without returns -/

/-- The token `t'` is `t` but for its offset, which is less by the pairs in front of `t` in the
source. -/
structure SameButOffset (source : List Char) (t t' : Token) : Prop where
  kind : t'.kind = t.kind
  literal : t'.literal = t.literal
  length : t'.length = t.length
  line : t'.position.line = t.position.line
  column : t'.position.column = t.position.column
  offset : ∃ u, u <+: source ∧ Utf8.size u = t.position.offset ∧
    t'.position.offset + endPairs u = t.position.offset

theorem sameButOffset_of_behind {source u : List Char} {t t' : Token} (hu : u <+: source)
    (ht : t.position = .behind u) (ht' : t' = { t with position := .behind (dropReturns u) }) :
    SameButOffset source t t' := by
  obtain ⟨hline, hcolumn⟩ := Position.behind_dropReturns u
  subst ht'
  refine ⟨rfl, rfl, rfl, ?_, ?_, u, hu, ?_, ?_⟩
  · rw [ht, ← hline]
  · rw [ht, ← hcolumn]
  · rw [ht]
    rfl
  · rw [ht]
    exact size_dropReturns u

/-- The tokens `t` and `t'` are of the same lexeme, which begins with `c` behind `u` in the source
and behind `u` without its returns otherwise. -/
structure Retold (source u : List Char) (c : Char) (t t' : Token) : Prop where
  prefix_source : u ++ [c] <+: source
  isBlank_eq_false : isBlank c = false
  exists_lexeme : ∃ cs, t = (Lexeme.first c cs).token (.behind u) ∧
    t' = (Lexeme.first c cs).token (.behind (dropReturns u))

/-- The tokens of a line, behind `v` in a source and behind `v` without its returns otherwise. -/
theorem forall₂_retold_line {v line : List Char} (hline : '\n' ∉ line)
    (hv : v.getLast? ≠ some '\r') (rest : List Char) :
    List.Forall₂ (fun t t' => ∃ u c, Retold (v ++ (line ++ rest)) u c t t')
      (tokensFrom (.behind v) line) (tokensFrom (.behind (dropReturns v)) line) := by
  refine (forall₂_tokensFrom _ _ line).imp ?_
  rintro t t' ⟨u, c, cs, rfl, hc, rfl, rfl⟩
  have hu : '\n' ∉ u := fun h => hline (List.mem_append_left _ h)
  refine ⟨v ++ u, c, ⟨cs ++ rest, by simp⟩, hc, cs, ?_, ?_⟩
  · rw [Position.advanceAll_behind]
  · rw [Position.advanceAll_behind, dropReturns_append fun h => absurd h hv,
      dropReturns_of_not_mem hu]

/-- The tokens of a text behind `v`, where no return can be the first half of a pair. -/
theorem forall₂_retold {v : List Char} (hv : v.getLast? ≠ some '\r') (text : List Char) :
    List.Forall₂ (fun t t' => ∃ u c, Retold (v ++ text) u c t t')
      (tokensFrom (.behind v) text) (tokensFrom (.behind (dropReturns v)) (dropReturns text)) := by
  induction text using line_induction '\n' generalizing v with
  | last piece h =>
    have htokens := forall₂_retold_line h hv []
    rw [List.append_nil] at htokens
    rwa [dropReturns_of_not_mem h]
  | cons line rest h ih =>
    obtain ⟨body, tail, hbody, htail, hdrop⟩ := exists_dropReturns_line h
    have hblank : AllBlank tail := by
      rcases htail with rfl | rfl
      · exact allBlank_nil
      · exact allBlank_singleton rfl
    -- Both sides come to the next line, with the same text behind them but for its returns.
    have hnext : (Position.behind v).nextLine line = .behind (v ++ (line ++ ['\n'])) := by
      rw [Position.nextLine, Position.advanceAll_behind, Position.advance_behind,
        List.append_assoc]
    have hnext' : (Position.behind (dropReturns v)).nextLine body =
        .behind (dropReturns (v ++ (line ++ ['\n']))) := by
      rw [dropReturns_append fun hr => absurd hr hv, hdrop, Position.nextLine,
        Position.advanceAll_behind, Position.advance_behind, List.append_assoc]
      rfl
    have hsource : v ++ (line ++ ['\n']) ++ rest = v ++ (line ++ '\n' :: rest) := by simp
    rw [hdrop, tokensFrom_line, tokensFrom_line, hnext, hnext',
      ← tokensFrom_append_blanks _ body hblank, ← hbody]
    refine List.rel_append (forall₂_retold_line h hv _) ?_
    rw [← hsource]
    exact ih (by simp)

/-- A source and the source without its returns have the same tokens but for their offsets. -/
theorem forall₂_scan_dropReturns (source : List Char) :
    List.Forall₂ (SameButOffset source) (scan source) (scan (dropReturns source)) := by
  rw [scan_eq, scan_eq, Position.advanceAll_start, Position.advanceAll_start]
  have hend : SameButOffset source (Token.atEnd (.behind source))
      (Token.atEnd (.behind (dropReturns source))) :=
    sameButOffset_of_behind List.prefix_rfl rfl rfl
  refine List.rel_append ((forall₂_retold (v := []) (by simp) source).imp ?_) (.cons hend .nil)
  rintro t t' ⟨u, c, ⟨v, hsource⟩, -, cs, rfl, rfl⟩
  have hu : u <+: source := ⟨[c] ++ v, (List.append_assoc u [c] v).symm.trans hsource⟩
  exact sameButOffset_of_behind hu rfl rfl

end MonkeyScan
