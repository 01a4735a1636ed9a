import MonkeyScan.Proofs.Scanner.Lossless
import MonkeyScan.Proofs.Scanner.Parts

/-!
# Two texts in a row

The tokens of `a ++ b` are those of `a` and then those of `b`, shifted behind `a`, unless a token
lies across the seam. This happens in three ways (`Fused`): a word or an integer goes on, or an
equals sign makes one symbol with the last symbol of `a`. The last way cannot be seen from the
last character of `a`, since an equals sign may already be the second half of a symbol.

**Theorem (`scan_append_iff`).** The law holds if and only if the texts do not fuse.

That it holds where they do not is `tokensFrom_append`. For the other direction, a text that does
not end with a blank is cut in front of its last lexeme (`LastLexeme`). What stands in front of the
cut is read apart, whatever follows the text; the lexeme itself becomes longer
(`Lexeme.length_lt_of_takesMore`), so that the tokens of `a` are no longer there.
-/

namespace MonkeyScan

/-- The texts are read as one across the seam between them. -/
inductive Fused (a b : List Char) : Prop
  | word {c d : Char} : a.getLast? = some c → b.head? = some d →
      isLetter c = true → isLetter d = true → Fused a b
  | numeral {c d : Char} : a.getLast? = some c → b.head? = some d →
      isDigit c = true → isDigit d = true → Fused a b
  | operator {t : Token} : (scan a).dropLast.getLast? = some t →
      t.kind = .symbol .assign ∨ t.kind = .symbol .bang → t.stop = Utf8.size a →
      b.head? = some '=' → Fused a b

/-! ## Lexemes that go on -/

/-- A run that reaches up to the end of a text is longer if its class goes on behind it. -/
theorem length_lt_takeWhile_append {p : Char → Bool} {cs ds : List Char} {d : Char}
    (hcs : ∀ c ∈ cs, p c = true) (hd : p d = true) :
    cs.length < ((cs ++ d :: ds).takeWhile p).length := by
  rw [List.takeWhile_append_of_pos hcs, List.takeWhile_cons_of_pos hd, List.length_append,
    List.length_cons]
  omega

namespace Lexeme

/-- What a lexeme takes more of is settled by its first character, for a symbol by its kind. -/
theorem Front.takesMore_iff {c d : Char} {cs : List Char} {l : Lexeme} (h : Front c cs l) :
    l.kind.takesMore d = true ↔
      (isLetter c = true ∧ isLetter d = true) ∨ (isDigit c = true ∧ isDigit d = true) ∨
        ((l.kind = .symbol .assign ∨ l.kind = .symbol .bang) ∧ d = '=') := by
  cases h with
  | keyword k hl _ => simp [Kind.takesMore, hl, isDigit_eq_false_of_isLetter hl]
  | ident hl _ => simp [Kind.takesMore, hl, isDigit_eq_false_of_isLetter hl]
  | int hl hn => simp [Kind.takesMore, hl, hn]
  | symbol s hl hn _ => cases s <;> simp [Kind.takesMore, hl, hn]
  | illegal hl hn _ => simp [Kind.takesMore, hl, hn]

/-- A lexeme that takes all of its text, and more of what follows, is longer there. -/
theorem length_lt_of_takesMore {c d : Char} {cs : List Char}
    (hwhole : (first c cs).chars = c :: cs) (hmore : (first c cs).kind.takesMore d = true)
    (ds : List Char) :
    (c :: cs).length < (first c (cs ++ d :: ds)).chars.length := by
  have hfront := front_first c cs
  rcases hfront.takesMore_iff.1 hmore with ⟨hl, hd⟩ | ⟨hn, hd⟩ | ⟨hkind, rfl⟩
  · have hcs : ∀ e ∈ cs, isLetter e = true := by
      intro e he
      rw [hfront.isLetter_eq (hwhole ▸ List.mem_cons_of_mem c he), hl]
    rw [first_of_isLetter hl]
    exact Nat.succ_lt_succ (length_lt_takeWhile_append hcs hd)
  · have hcs : ∀ e ∈ cs, isDigit e = true := by
      intro e he
      rw [hfront.isDigit_eq (hwhole ▸ List.mem_cons_of_mem c he), hn]
    rw [first_of_isDigit hn]
    exact Nat.succ_lt_succ (length_lt_takeWhile_append hcs hd)
  · generalize first c cs = l at hfront hwhole hkind
    cases hfront with
    | symbol s hl hn hs =>
      rcases hkind with hkind | hkind
      · cases hkind
        have hwhole : ['='] = c :: cs := hwhole
        cases hwhole
        exact Nat.lt_succ_self 1
      · cases hkind
        have hwhole : ['!'] = c :: cs := hwhole
        cases hwhole
        exact Nat.lt_succ_self 1
    | keyword | ident | int | illegal => simp at hkind

end Lexeme

/-! ## The last lexeme of a text -/

/-- The text `a` ends with the lexeme `c :: cs` behind `u`, and whatever follows the text, it is
read behind `u` as if it began there. -/
structure LastLexeme (a u : List Char) (c : Char) (cs : List Char) : Prop where
  eq_append : a = u ++ c :: cs
  isBlank_eq_false : isBlank c = false
  whole : (Lexeme.first c cs).chars = c :: cs
  apart : ∀ p, ∃ ts, ∀ b,
    tokensFrom p (a ++ b) = ts ++ tokensFrom (p.advanceAll u) (c :: (cs ++ b))

theorem exists_lastLexeme {a : List Char} {e : Char} (ha : a.getLast? = some e)
    (he : isBlank e = false) : ∃ u c cs, LastLexeme a u c cs := by
  induction a using Scanner.text_induction with
  | blanks g hg =>
    rw [hg e (List.mem_of_getLast? ha)] at he
    cases he
  | lexeme g c cs tail hg hc htail ih =>
    by_cases hnil : tail = []
    -- The lexeme takes all of the text behind its gap.
    · refine ⟨g, c, cs, rfl, hc, by rw [htail, hnil, List.append_nil], fun p => ⟨[], fun b => ?_⟩⟩
      rw [List.append_assoc, tokensFrom_blanks_append hg]
      rfl
    -- The last lexeme is that of the tail, and this one ends before what follows the text.
    · have hlast : tail.getLast? = some e := by
        rw [htail, ← List.append_assoc, List.getLast?_append_of_ne_nil _ hnil] at ha
        exact ha
      obtain ⟨u, d, ds, h⟩ := ih hlast
      refine ⟨g ++ (Lexeme.first c cs).chars ++ u, d, ds, ?_, h.isBlank_eq_false, h.whole,
        fun p => ?_⟩
      · rw [htail, h.eq_append]
        simp only [List.append_assoc]
      · obtain ⟨ts, hts⟩ := h.apart (p.advanceAll (g ++ (Lexeme.first c cs).chars))
        refine ⟨(Lexeme.first c cs).token (p.advanceAll g) :: ts, fun b => ?_⟩
        rw [tokensFrom_lexeme_append hg hc htail (fun h' => absurd h' hnil), hts,
          ← Position.advanceAll_append, List.cons_append]

/-- A text with a token that reaches up to its end does not end with a blank. -/
theorem exists_lastLexeme_of_stop {p : Position} {a : List Char} {t : Token}
    (ht : t ∈ tokensFrom p a) (hstop : t.stop = p.offset + Utf8.size a) :
    ∃ u c cs, LastLexeme a u c cs := by
  rcases List.eq_nil_or_concat' a with rfl | ⟨a, e, rfl⟩
  · rw [tokensFrom_blanks allBlank_nil] at ht
    cases ht
  · cases he : isBlank e with
    | false => exact exists_lastLexeme List.getLast?_concat he
    | true =>
      rw [tokensFrom_append_blanks p a (allBlank_singleton he)] at ht
      have hle := ((laid_tokensFrom p a).bounds ht).2.2
      have hpos := e.utf8Size_pos
      simp only [Utf8.size_append, Utf8.size_cons, Utf8.size_nil] at hstop
      omega

namespace LastLexeme

variable {a u cs : List Char} {c : Char}

theorem tokensFrom_whole (h : LastLexeme a u c cs) (p : Position) :
    tokensFrom p (c :: cs) = [(Lexeme.first c cs).token p] := by
  have hall : c :: cs = (Lexeme.first c cs).chars ++ [] := by rw [h.whole, List.append_nil]
  have htokens := tokensFrom_lexeme allBlank_nil h.isBlank_eq_false hall p
  rwa [tokensFrom_blanks allBlank_nil] at htokens

theorem getLast?_tokensFrom (h : LastLexeme a u c cs) (p : Position) :
    (tokensFrom p a).getLast? = some ((Lexeme.first c cs).token (p.advanceAll u)) := by
  obtain ⟨ts, hts⟩ := h.apart p
  have htokens := hts []
  rw [List.append_nil, List.append_nil, h.tokensFrom_whole] at htokens
  rw [htokens, List.getLast?_concat]

theorem stop_eq (h : LastLexeme a u c cs) (p : Position) :
    ((Lexeme.first c cs).token (p.advanceAll u)).stop = p.offset + Utf8.size a := by
  rw [Token.stop, (Lexeme.front_first c cs).spelling_token, h.whole, Lexeme.token,
    Position.advanceAll_offset, h.eq_append, Utf8.size_append, Nat.add_assoc]

/-- The last character of the text is one of its last lexeme. -/
theorem getLast?_mem (h : LastLexeme a u c cs) {e : Char} (he : a.getLast? = some e) :
    e ∈ (Lexeme.first c cs).chars := by
  rw [h.eq_append, List.getLast?_append_of_ne_nil _ (List.cons_ne_nil c cs)] at he
  rw [h.whole]
  exact List.mem_of_getLast? he

/-- Where the last lexeme takes more, the tokens of the text are no longer there. -/
theorem tokensFrom_append_ne (h : LastLexeme a u c cs) {d : Char} {ds : List Char}
    (hmore : (Lexeme.first c cs).kind.takesMore d = true) (p : Position) (us : List Token) :
    tokensFrom p (a ++ d :: ds) ≠ tokensFrom p a ++ us := by
  intro heq
  obtain ⟨ts, hts⟩ := h.apart p
  have hshort := hts []
  have hlong := tokensFrom_lexeme allBlank_nil h.isBlank_eq_false
    (Lexeme.first_append_drop c (cs ++ d :: ds)).symm (p.advanceAll u)
  rw [List.append_nil, List.append_nil, h.tokensFrom_whole] at hshort
  rw [hts, hshort, List.append_assoc] at heq
  rw [List.nil_append, List.append_cancel_left heq] at hlong
  have hlength : (Lexeme.first c cs).length = (Lexeme.first c (cs ++ d :: ds)).length :=
    congrArg Token.length (List.cons.inj hlong).1
  rw [(Lexeme.front_first _ _).length_eq, (Lexeme.front_first _ _).length_eq, h.whole] at hlength
  exact absurd hlength (Nat.ne_of_lt (Lexeme.length_lt_of_takesMore h.whole hmore ds))

/-- A text that ends with a lexeme fuses with what that lexeme takes more of. -/
theorem fused_iff (h : LastLexeme a u c cs) (b : List Char) :
    Fused a b ↔ ∃ d, b.head? = some d ∧ (Lexeme.first c cs).kind.takesMore d = true := by
  have hfront := Lexeme.front_first c cs
  have hlast : (scan a).dropLast.getLast? =
      some ((Lexeme.first c cs).token (Position.start.advanceAll u)) := by
    rw [scan_eq, List.dropLast_concat, h.getLast?_tokensFrom]
  constructor
  · intro hfused
    cases hfused with
    | @word e d he hd hle hld =>
      have hc := hfront.isLetter_eq (h.getLast?_mem he)
      exact ⟨d, hd, hfront.takesMore_iff.2 (Or.inl ⟨hc.symm.trans hle, hld⟩)⟩
    | @numeral e d he hd hne hnd =>
      have hc := hfront.isDigit_eq (h.getLast?_mem he)
      exact ⟨d, hd, hfront.takesMore_iff.2 (Or.inr (Or.inl ⟨hc.symm.trans hne, hnd⟩))⟩
    | @operator t ht hkind _ hd =>
      rw [hlast] at ht
      cases ht
      exact ⟨'=', hd, hfront.takesMore_iff.2 (Or.inr (Or.inr ⟨hkind, rfl⟩))⟩
  · rintro ⟨d, hd, hmore⟩
    have hne : a ≠ [] := by simp [h.eq_append]
    have he := List.getLast?_eq_some_getLast hne
    rcases hfront.takesMore_iff.1 hmore with ⟨hc, hld⟩ | ⟨hc, hnd⟩ | ⟨hkind, rfl⟩
    · exact .word he hd ((hfront.isLetter_eq (h.getLast?_mem he)).trans hc) hld
    · exact .numeral he hd ((hfront.isDigit_eq (h.getLast?_mem he)).trans hc) hnd
    · have hstop := h.stop_eq .start
      rw [Position.start, Nat.zero_add] at hstop
      exact .operator hlast hkind hstop hd

end LastLexeme

/-! ## The law -/

theorem Fused.exists_lastLexeme {a b : List Char} (h : Fused a b) :
    ∃ u c cs, LastLexeme a u c cs := by
  cases h with
  | word ha _ hl _ => exact MonkeyScan.exists_lastLexeme ha (isBlank_eq_false_of_isLetter hl)
  | numeral ha _ hn _ => exact MonkeyScan.exists_lastLexeme ha (isBlank_eq_false_of_isDigit hn)
  | operator ht _ hstop _ =>
    rw [scan_eq, List.dropLast_concat] at ht
    refine exists_lastLexeme_of_stop (List.mem_of_getLast? ht) ?_
    rw [hstop, Position.start, Nat.zero_add]

/-- Tokens are cut at the seam exactly if the texts do not fuse. -/
theorem tokensFrom_append_iff (a b : List Char) :
    tokensFrom .start (a ++ b) =
        tokensFrom .start a ++ tokensFrom (Position.start.advanceAll a) b ↔ ¬ Fused a b := by
  constructor
  · intro heq hfused
    obtain ⟨u, c, cs, h⟩ := hfused.exists_lastLexeme
    obtain ⟨d, hd, hmore⟩ := (h.fused_iff b).1 hfused
    obtain ⟨ds, rfl⟩ := List.head?_eq_some_iff.1 hd
    exact h.tokensFrom_append_ne hmore _ _ heq
  · intro hfused
    refine tokensFrom_append fun t ht hstop d hd => ?_
    obtain ⟨u, c, cs, h⟩ := exists_lastLexeme_of_stop (List.mem_of_getLast? ht) hstop
    rw [h.getLast?_tokensFrom] at ht
    cases ht
    rw [← Bool.not_eq_true]
    exact fun hmore => hfused ((h.fused_iff b).2 ⟨d, hd, hmore⟩)

theorem map_shift_scan (p : Position) (b : List Char) :
    (scan b).map (Token.shift p) = tokensFrom p b ++ [Token.atEnd (p.advanceAll b)] := by
  have hend : p.shift (Position.start.advanceAll b) = p.advanceAll b := by
    rw [Position.shift_advanceAll p Position.counted_start, Position.shift_start]
  rw [scan_eq, List.map_append, ← tokensFrom_eq_map_shift]
  simp [Token.shift, Token.atEnd, hend]

/-- **Concatenation.** The tokens of two texts in a row are those of the first without its end
token and then those of the second, shifted, if and only if the texts do not fuse. -/
theorem scan_append_iff (a b : List Char) :
    scan (a ++ b) =
        (scan a).dropLast ++ (scan b).map (Token.shift (Position.start.advanceAll a)) ↔
      ¬ Fused a b := by
  rw [← tokensFrom_append_iff, map_shift_scan, scan_eq, scan_eq, List.dropLast_concat,
    ← List.append_assoc, ← Position.advanceAll_append]
  exact List.append_left_inj _

end MonkeyScan
