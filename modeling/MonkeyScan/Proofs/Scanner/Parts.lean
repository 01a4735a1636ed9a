import MonkeyScan.Proofs.Position
import MonkeyScan.Proofs.Scanner.Tokens

/-!
# Scanning a text in parts

A scanner has no memory but its place, and it looks no further than one character behind a token.
So the tokens of a text do not depend on where it stands, up to a shift of their places
(`tokensFrom_eq_map_shift`), and a text can be cut in two between tokens: its tokens are those of
the first part and then those of the second, unless the last token of the first part reaches up
to the seam and would take the next character too (`tokensFrom_append`). No token takes a blank,
so that a cut in front of one is always possible (`tokensFrom_append_of_isBlank`).
-/

namespace MonkeyScan

/-! ## Places of tokens -/

/-- Every token stands behind a part of the text. -/
theorem exists_position_eq {p : Position} {cs : List Char} {t : Token}
    (h : t ∈ tokensFrom p cs) : ∃ u v, cs = u ++ v ∧ t.position = p.advanceAll u := by
  obtain ⟨u, c, cs, rfl, -, rfl⟩ := exists_lexeme_of_mem h
  exact ⟨u, c :: cs, rfl, rfl⟩

theorem le_line_of_mem {p : Position} {cs : List Char} {t : Token} (h : t ∈ tokensFrom p cs) :
    p.line ≤ t.position.line := by
  obtain ⟨u, v, -, ht⟩ := exists_position_eq h
  rw [ht, Position.advanceAll_line]
  exact Nat.le_add_right _ _

theorem line_eq_of_mem {p : Position} {cs : List Char} {t : Token} (h : t ∈ tokensFrom p cs)
    (hcs : '\n' ∉ cs) : t.position.line = p.line := by
  obtain ⟨u, v, rfl, ht⟩ := exists_position_eq h
  rw [ht, Position.advanceAll_line_of_not_mem p fun hu => hcs (List.mem_append_left v hu)]

/-! ## A text that stands elsewhere -/

/-- The token `t` of a text that itself stands at `p`. -/
def Token.shift (p : Position) (t : Token) : Token := { t with position := p.shift t.position }

theorem tokensFrom_shift (p : Position) {q : Position} (hq : q.Counted) (cs : List Char) :
    tokensFrom (p.shift q) cs = (tokensFrom q cs).map (Token.shift p) := by
  induction cs using Scanner.text_induction generalizing q with
  | blanks g hg => rw [tokensFrom_blanks hg, tokensFrom_blanks hg, List.map_nil]
  | lexeme g c cs tail hg hc htail ih =>
    rw [tokensFrom_lexeme hg hc htail, tokensFrom_lexeme hg hc htail, List.map_cons,
      ← ih (hq.advanceAll _), Position.shift_advanceAll p hq, Token.shift, Lexeme.token,
      Lexeme.token, Position.shift_advanceAll p hq]

theorem tokensFrom_eq_map_shift (p : Position) (cs : List Char) :
    tokensFrom p cs = (tokensFrom .start cs).map (Token.shift p) := by
  rw [← tokensFrom_shift p Position.counted_start, Position.shift_start]

/-! ## The seam between two parts -/

/-- Whether a token of this kind would have taken `c` too, had `c` followed it. -/
def Kind.takesMore (k : Kind) (c : Char) : Bool :=
  match k with
  | .ident | .keyword _ => isLetter c
  | .int => isDigit c
  | .symbol .assign | .symbol .bang => c == '='
  | _ => false

theorem Kind.takesMore_of_isBlank (k : Kind) {c : Char} (h : isBlank c = true) :
    k.takesMore c = false := by
  have heq : (c == '=') = false := by
    rw [beq_eq_false_iff_ne]
    rintro rfl
    revert h
    decide
  unfold takesMore
  split
  · exact isLetter_eq_false_of_isBlank h
  · exact isLetter_eq_false_of_isBlank h
  · exact isDigit_eq_false_of_isBlank h
  · exact heq
  · exact heq
  · rfl

theorem Kind.takesMore_ofWord (w : String) (c : Char) : (ofWord w).takesMore c = isLetter c := by
  unfold ofWord
  split <;> rfl

/-- A run is not made longer by what follows, unless it reaches up to it. -/
theorem takeWhile_append_of_stop {p : Char → Bool} {cs ds : List Char}
    (h : cs.takeWhile p = cs → ∀ d ∈ ds.head?, p d = false) :
    (cs ++ ds).takeWhile p = cs.takeWhile p := by
  rw [List.takeWhile_append]
  split
  · next hlen =>
    have hcs : cs.takeWhile p = cs := (List.takeWhile_prefix p).eq_of_length hlen
    obtain _ | ⟨d, ds⟩ := ds
    · rw [List.takeWhile_nil, List.append_nil, hcs]
    · have hd : ¬ p d = true := by simp [h hcs d rfl]
      rw [List.takeWhile_cons_of_neg hd, List.append_nil, hcs]
  · rfl

theorem Symbol.atFront?_append {c : Char} {cs ds : List Char}
    (h : cs = [] → c = '=' ∨ c = '!' → ∀ d ∈ ds.head?, (d == '=') = false) :
    atFront? c (cs ++ ds) = atFront? c cs := by
  obtain _ | ⟨d, cs⟩ := cs
  · obtain _ | ⟨d, ds⟩ := ds
    · rfl
    · by_cases hc : c = '=' ∨ c = '!'
      · have hd : ¬ d = '=' := by simpa using h rfl hc d rfl
        simp [atFront?, hd]
      · rw [not_or] at hc
        simp [atFront?, hc.1, hc.2]
  · rfl

/-- A lexeme is not changed by what follows the text, unless it reaches up to it and would go on. -/
theorem Lexeme.first_append {c : Char} {cs ds : List Char}
    (h : (first c cs).chars = c :: cs →
      ∀ d ∈ ds.head?, (first c cs).kind.takesMore d = false) :
    first c (cs ++ ds) = first c cs := by
  cases hl : isLetter c with
  | true =>
    rw [first_of_isLetter hl] at h
    have hrun : (cs ++ ds).takeWhile isLetter = cs.takeWhile isLetter := by
      refine takeWhile_append_of_stop fun hcs d hd => ?_
      rw [← Kind.takesMore_ofWord]
      exact h (congrArg (c :: ·) hcs) d hd
    rw [first_of_isLetter hl, first_of_isLetter hl, hrun]
  | false =>
    cases hn : isDigit c with
    | true =>
      rw [first_of_isDigit hn] at h
      have hrun : (cs ++ ds).takeWhile isDigit = cs.takeWhile isDigit :=
        takeWhile_append_of_stop fun hcs => h (congrArg (c :: ·) hcs)
      rw [first_of_isDigit hn, first_of_isDigit hn, hrun]
    | false =>
      have hsymbol : Symbol.atFront? c (cs ++ ds) = Symbol.atFront? c cs := by
        refine Symbol.atFront?_append fun hcs hc d hd => ?_
        subst hcs
        rcases hc with rfl | rfl
        · exact h rfl d hd
        · exact h rfl d hd
      cases hs : Symbol.atFront? c cs with
      | some s => rw [first_of_atFront? hs, first_of_atFront? (hsymbol.trans hs)]
      | none =>
        rw [first_of_atFront?_eq_none hl hn hs,
          first_of_atFront?_eq_none hl hn (hsymbol.trans hs)]

theorem tokensFrom_blanks_append {g : List Char} (hg : AllBlank g) (p : Position)
    (cs : List Char) : tokensFrom p (g ++ cs) = tokensFrom (p.advanceAll g) cs := by
  induction cs using Scanner.text_induction with
  | blanks g' hg' => rw [tokensFrom_blanks (hg.append hg'), tokensFrom_blanks hg']
  | lexeme g' c cs tail hg' hc htail =>
    rw [← List.append_assoc, tokensFrom_lexeme (hg.append hg') hc htail,
      tokensFrom_lexeme hg' hc htail, List.append_assoc, Position.advanceAll_append,
      Position.advanceAll_append]

/-- A first lexeme that does not take more of what follows its text is read as without it. -/
theorem tokensFrom_lexeme_append {g : List Char} (hg : AllBlank g) {c : Char}
    (hc : isBlank c = false) {cs tail : List Char}
    (htail : c :: cs = (Lexeme.first c cs).chars ++ tail) {b : List Char}
    (hseam : tail = [] → ∀ d ∈ b.head?, (Lexeme.first c cs).kind.takesMore d = false)
    (p : Position) :
    tokensFrom p (g ++ c :: cs ++ b) =
      (Lexeme.first c cs).token (p.advanceAll g) ::
        tokensFrom (p.advanceAll (g ++ (Lexeme.first c cs).chars)) (tail ++ b) := by
  have hfirst : Lexeme.first c (cs ++ b) = Lexeme.first c cs := by
    refine Lexeme.first_append fun hall => hseam ?_
    rw [hall] at htail
    exact List.append_right_eq_self.1 htail.symm
  have htail' : c :: (cs ++ b) = (Lexeme.first c (cs ++ b)).chars ++ (tail ++ b) := by
    rw [hfirst, ← List.append_assoc, ← htail, List.cons_append]
  rw [List.append_assoc, List.cons_append, tokensFrom_lexeme hg hc htail', hfirst]

/-- **Scanning in parts.** The tokens of two texts in a row are those of each, unless the last
token of the first text reaches up to the second and takes more of it. -/
theorem tokensFrom_append {a b : List Char} {p : Position}
    (h : ∀ t ∈ (tokensFrom p a).getLast?, t.stop = p.offset + Utf8.size a →
      ∀ d ∈ b.head?, t.kind.takesMore d = false) :
    tokensFrom p (a ++ b) = tokensFrom p a ++ tokensFrom (p.advanceAll a) b := by
  induction a using Scanner.text_induction generalizing p with
  | blanks g hg => rw [tokensFrom_blanks_append hg, tokensFrom_blanks hg, List.nil_append]
  | lexeme g c cs tail hg hc htail ih =>
    have hseam : tail = [] → ∀ d ∈ b.head?, (Lexeme.first c cs).kind.takesMore d = false := by
      intro hnil
      rw [tokensFrom_lexeme hg hc htail, hnil, tokensFrom_blanks allBlank_nil] at h
      refine h ((Lexeme.first c cs).token (p.advanceAll g)) rfl ?_
      rw [Token.stop, (Lexeme.front_first c cs).spelling_token, Lexeme.token,
        Position.advanceAll_offset, Utf8.size_append, htail, hnil, List.append_nil, Nat.add_assoc]
    have hih := ih (p := p.advanceAll (g ++ (Lexeme.first c cs).chars)) fun t ht hstop => by
      refine h t ?_ ?_
      · rw [tokensFrom_lexeme hg hc htail, List.getLast?_cons, Option.mem_def.1 ht]
        rfl
      · rw [hstop, Position.advanceAll_offset, htail]
        simp only [Utf8.size_append, Nat.add_assoc]
    rw [tokensFrom_lexeme_append hg hc htail hseam, hih, tokensFrom_lexeme hg hc htail,
      List.cons_append, ← Position.advanceAll_append, htail, List.append_assoc]

/-- A text can be cut in front of a blank. -/
theorem tokensFrom_append_of_isBlank {a b : List Char} (p : Position)
    (h : ∀ d ∈ b.head?, isBlank d = true) :
    tokensFrom p (a ++ b) = tokensFrom p a ++ tokensFrom (p.advanceAll a) b :=
  tokensFrom_append fun t _ _ d hd => t.kind.takesMore_of_isBlank (h d hd)

/-- Blanks at the end of a text change nothing. -/
theorem tokensFrom_append_blanks (p : Position) (cs : List Char) {g : List Char}
    (hg : AllBlank g) : tokensFrom p (cs ++ g) = tokensFrom p cs := by
  rw [tokensFrom_append_of_isBlank p fun d hd => hg d (List.mem_of_head? hd),
    tokensFrom_blanks hg, List.append_nil]

end MonkeyScan
