import MonkeyScan.Proofs.Scanner.Seam

/-!
# What a text settles

A scanner looks one character behind a token and never comes back to it. So a text that is still
being written settles all of its tokens but those that reach up to its end: whatever follows, they
are the first tokens of the whole (`exists_settled`).

**Theorem (`scan_prefix_stable`).** A token that ends at least one character before an edit is
not changed by it, and neither is any token in front of it.

Only the last lexeme of a text is open. If it takes all that is left of the text, it can become
longer by what follows but not shorter (`Lexeme.prefix_first_append`), so that it still reaches up
to where the text ended, and every later token ends behind it.
-/

namespace MonkeyScan

/-- A lexeme that takes all of its text takes no less of a longer text. -/
theorem Lexeme.prefix_first_append {c : Char} {cs : List Char}
    (hwhole : (first c cs).chars = c :: cs) (b : List Char) :
    c :: cs <+: (first c (cs ++ b)).chars := by
  by_cases hmore : ∃ d ∈ b.head?, (first c cs).kind.takesMore d = true
  · obtain ⟨d, hd, hmore⟩ := hmore
    obtain ⟨ds, rfl⟩ := List.head?_eq_some_iff.1 hd
    have htext : c :: cs <+: c :: (cs ++ d :: ds) := List.prefix_append (c :: cs) (d :: ds)
    have hfirst := first_chars_prefix c (cs ++ d :: ds)
    exact List.prefix_of_prefix_length_le htext hfirst
      (Nat.le_of_lt (length_lt_of_takesMore hwhole hmore ds))
  · have hsame : first c (cs ++ b) = first c cs := by
      refine first_append fun _ d hd => ?_
      rw [← Bool.not_eq_true]
      exact fun h => hmore ⟨d, hd, h⟩
    have htext : (first c (cs ++ b)).chars = c :: cs := by rw [hsame, hwhole]
    exact htext.symm ▸ List.prefix_rfl

theorem le_stop_of_mem {p : Position} {cs : List Char} {t : Token} (h : t ∈ tokensFrom p cs) :
    p.offset ≤ t.stop := by
  obtain ⟨hle, hlt, -⟩ := (laid_tokensFrom p cs).bounds h
  omega

/-- Where a lexeme takes all of a text, every token of a longer text reaches up to its end. -/
theorem le_stop_of_mem_whole {p : Position} {c : Char} {cs b : List Char} {t : Token}
    (hc : isBlank c = false) (hwhole : (Lexeme.first c cs).chars = c :: cs)
    (h : t ∈ tokensFrom p (c :: (cs ++ b))) : p.offset + Utf8.size (c :: cs) ≤ t.stop := by
  obtain ⟨rest, hrest⟩ := Lexeme.prefix_first_append hwhole b
  have htokens := tokensFrom_lexeme allBlank_nil hc
    (Lexeme.first_append_drop c (cs ++ b)).symm p
  have hsize : Utf8.size (c :: cs) ≤ Utf8.size (Lexeme.first c (cs ++ b)).chars := by
    rw [← hrest, Utf8.size_append]
    exact Nat.le_add_right _ _
  rw [List.nil_append] at htokens
  rw [htokens, List.mem_cons] at h
  rcases h with rfl | h
  · rw [Token.stop, (Lexeme.front_first _ _).spelling_token, Lexeme.token,
      Position.advanceAll_nil]
    exact Nat.add_le_add_left hsize p.offset
  · have hle := le_stop_of_mem h
    rw [List.nil_append, Position.advanceAll_offset] at hle
    omega

/-- **Settled tokens.** The tokens of a longer text begin with some that do not depend on what
follows, and all others reach up to the end of the text or further. -/
theorem exists_settled (p : Position) (a : List Char) :
    ∃ ts, ∀ b, ∃ us, tokensFrom p (a ++ b) = ts ++ us ∧
      ∀ u ∈ us, p.offset + Utf8.size a ≤ u.stop := by
  rcases List.eq_nil_or_concat' a with rfl | ⟨a, e, rfl⟩
  · exact ⟨[], fun b => ⟨tokensFrom p b, rfl, fun u hu => le_stop_of_mem hu⟩⟩
  cases he : isBlank e with
  -- A blank at the end closes every token in front of it.
  | true =>
    refine ⟨tokensFrom p a, fun b => ⟨tokensFrom (p.advanceAll (a ++ [e])) b, ?_, fun u hu => ?_⟩⟩
    · have hhead : ∀ d ∈ ([e] ++ b).head?, isBlank d = true := by
        intro d hd
        rw [← Option.some.inj hd, he]
      rw [List.append_assoc, tokensFrom_append_of_isBlank p hhead,
        tokensFrom_blanks_append (allBlank_singleton he), ← Position.advanceAll_append]
    · have hle := le_stop_of_mem hu
      rwa [Position.advanceAll_offset] at hle
  | false =>
    obtain ⟨u, c, cs, h⟩ := exists_lastLexeme (List.getLast?_concat (l := a)) he
    obtain ⟨ts, hts⟩ := h.apart p
    refine ⟨ts, fun b => ⟨tokensFrom (p.advanceAll u) (c :: (cs ++ b)), hts b, fun t ht => ?_⟩⟩
    have hle := le_stop_of_mem_whole h.isBlank_eq_false h.whole ht
    rw [Position.advanceAll_offset] at hle
    rw [h.eq_append, Utf8.size_append]
    omega

/-- The same for scans: the end token is never settled. -/
theorem exists_settled_scan (a : List Char) :
    ∃ ts, ∀ b, ∃ us, scan (a ++ b) = ts ++ us ∧ ∀ u ∈ us, Utf8.size a ≤ u.stop := by
  obtain ⟨ts, hts⟩ := exists_settled .start a
  refine ⟨ts, fun b => ?_⟩
  obtain ⟨us, hus, hstop⟩ := hts b
  refine ⟨us ++ [Token.atEnd (Position.start.advanceAll (a ++ b))], ?_, fun u hu => ?_⟩
  · rw [scan_eq, hus, List.append_assoc]
  · rcases List.mem_append.1 hu with hu | hu
    · have hle := hstop u hu
      rwa [Position.start, Nat.zero_add] at hle
    · rw [List.mem_singleton.1 hu, Token.stop, Token.atEnd, Position.advanceAll_offset,
        Utf8.size_append]
      omega

/-- **One character of lookahead.** A token of a text that ends before the last character of `p`
is there with the same place whatever follows `p`, and so are all tokens in front of it. -/
theorem scan_prefix_stable {p x y : List Char} {i : Nat} {t : Token}
    (ht : (scan (p ++ x))[i]? = some t) (hstop : t.stop < Utf8.size p) :
    (scan (p ++ y))[i]? = some t ∧ ∀ j < i, (scan (p ++ y))[j]? = (scan (p ++ x))[j]? := by
  obtain ⟨ts, hts⟩ := exists_settled_scan p
  obtain ⟨us, hx, hus⟩ := hts x
  obtain ⟨vs, hy, -⟩ := hts y
  have hi : i < ts.length := by
    by_contra hge
    rw [hx, List.getElem?_append_right (Nat.le_of_not_lt hge)] at ht
    exact absurd hstop (Nat.not_lt.2 (hus t (List.mem_of_getElem? ht)))
  have hsame : ∀ j ≤ i, (scan (p ++ y))[j]? = (scan (p ++ x))[j]? := by
    intro j hj
    have hj : j < ts.length := Nat.lt_of_le_of_lt hj hi
    rw [hx, hy, List.getElem?_append_left hj, List.getElem?_append_left hj]
  exact ⟨(hsame i (Nat.le_refl i)).trans ht, fun j hj => hsame j (Nat.le_of_lt hj)⟩

/-- In `a !== 12` the second equals sign is a symbol of its own, and stays one whatever becomes of
the integer. -/
theorem scan_prefix_stable_at_assign :
    (scan ("a !== 1".toList ++ "2".toList))[2]? = some ⟨.symbol .assign, "", ⟨1, 5, 4⟩, 1⟩ ∧
      Token.stop ⟨.symbol .assign, "", ⟨1, 5, 4⟩, 1⟩ < Utf8.size "a !== 1".toList ∧
      (scan ("a !== 1".toList ++ "=z".toList))[2]? = some ⟨.symbol .assign, "", ⟨1, 5, 4⟩, 1⟩ ∧
      ∀ j < 2, (scan ("a !== 1".toList ++ "=z".toList))[j]? =
        (scan ("a !== 1".toList ++ "2".toList))[j]? := by
  have ht : (scan ("a !== 1".toList ++ "2".toList))[2]? =
      some ⟨.symbol .assign, "", ⟨1, 5, 4⟩, 1⟩ := by
    rw [scan, Scanner.run_of_not_isEof (by decide), Scanner.run_of_not_isEof (by decide),
      Scanner.run_of_not_isEof (by decide)]
    rfl
  have hstop : Token.stop ⟨.symbol .assign, "", ⟨1, 5, 4⟩, 1⟩ < Utf8.size "a !== 1".toList := by
    decide
  exact ⟨ht, hstop, scan_prefix_stable ht hstop⟩

end MonkeyScan
