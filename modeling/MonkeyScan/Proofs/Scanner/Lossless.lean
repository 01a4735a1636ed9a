import Mathlib.Algebra.GroupWithZero.Nat
import MonkeyScan.Proofs.Scanner.Tokens

/-!
# Scanning loses nothing

`Laid n cs ts` says where the tokens `ts` are in a text `cs` that begins at byte `n`: each stands
behind a gap of blanks, at the byte that its offset says, for as many characters as its length
says, and these characters are its spelling; behind the last one there are only blanks. So the
text can be put together again from the tokens and the gaps.

Four things that a token is given apart from one another have to agree for this: the offset is
counted by the scanner, the length is noted by the lexeme, and the spelling is either the literal
or looked up by the kind.

**Theorem (`scan_lossless`).** The tokens of a scan before the end token are laid in the source,
and the end token, the only one of its kind, stands behind all of it. Hence the spellings make up
the source without its blanks, the bytes of the tokens follow one another without overlap, and the
lengths add up to the number of characters that are no blanks.
-/

namespace MonkeyScan

/-- The tokens `ts` make up the text `cs` that begins at byte `n`, up to gaps of blanks. -/
inductive Laid : Nat → List Char → List Token → Prop
  | blanks {n : Nat} {g : List Char} : AllBlank g → Laid n g []
  | token {n : Nat} {g x cs : List Char} {t : Token} {ts : List Token} :
      AllBlank g → x ≠ [] → (∀ c ∈ x, isBlank c = false) →
      t.position.offset = n + Utf8.size g → t.length = x.length → t.spelling.toList = x →
      Laid (n + Utf8.size (g ++ x)) cs ts → Laid n (g ++ x ++ cs) (t :: ts)

theorem laid_tokensFrom (p : Position) (cs : List Char) :
    Laid p.offset cs (tokensFrom p cs) := by
  induction cs using Scanner.text_induction generalizing p with
  | blanks g hg =>
    rw [tokensFrom_blanks hg]
    exact .blanks hg
  | lexeme g c cs tail hg hc htail ih =>
    have hfront := Lexeme.front_first c cs
    have hlaid := ih (p.advanceAll (g ++ (Lexeme.first c cs).chars))
    rw [Position.advanceAll_offset] at hlaid
    rw [tokensFrom_lexeme hg hc htail, htail, ← List.append_assoc]
    exact .token hg (List.length_pos_iff.1 (Lexeme.first_chars_length_pos c cs))
      (fun d hd => hfront.isBlank_eq_false hc hd) (Position.advanceAll_offset p g)
      hfront.length_eq (hfront.spelling_token _) hlaid

namespace Laid

variable {n : Nat} {cs : List Char} {ts : List Token}

/-- The spellings of the tokens are the text without its blanks. -/
theorem flatMap_spelling (h : Laid n cs ts) :
    (ts.flatMap fun t => t.spelling.toList) = cs.filter fun c => !isBlank c := by
  induction h with
  | blanks hg =>
    rw [List.flatMap_nil, eq_comm, List.filter_eq_nil_iff]
    intro c hc
    simp [hg c hc]
  | @token n g x cs t ts hg _ hx _ _ ht _ ih =>
    have hgap : (g.filter fun c => !isBlank c) = [] :=
      List.filter_eq_nil_iff.2 fun c hc => by simp [hg c hc]
    have htext : (x.filter fun c => !isBlank c) = x :=
      List.filter_eq_self.2 fun c hc => by simp [hx c hc]
    rw [List.flatMap_cons, ih, ht, List.filter_append, List.filter_append, hgap, htext,
      List.nil_append]

theorem sum_length (h : Laid n cs ts) :
    (ts.map Token.length).sum = (ts.flatMap fun t => t.spelling.toList).length := by
  induction h with
  | blanks => rfl
  | token _ _ _ _ hl ht _ ih =>
    rw [List.map_cons, List.sum_cons, ih, List.flatMap_cons, List.length_append, hl, ht]

/-- Every token has its bytes inside the text, and at least one. -/
theorem bounds (h : Laid n cs ts) {t : Token} (ht : t ∈ ts) :
    n ≤ t.position.offset ∧ t.position.offset < t.stop ∧ t.stop ≤ n + Utf8.size cs := by
  induction h with
  | blanks => cases ht
  | @token n g x cs u us _ hne _ ho _ hu _ ih =>
    have hpos : 0 < Utf8.size x := by
      obtain _ | ⟨c, x⟩ := x
      · exact absurd rfl hne
      · have := c.utf8Size_pos
        rw [Utf8.size_cons]
        omega
    have hstop : u.stop = u.position.offset + Utf8.size x := by rw [Token.stop, hu]
    simp only [Utf8.size_append] at ih ⊢
    rcases List.mem_cons.1 ht with rfl | ht
    · omega
    · have := ih ht
      omega

/-- No token begins before the one in front of it has ended. -/
theorem pairwise_stop_le (h : Laid n cs ts) :
    ts.Pairwise fun t u => t.stop ≤ u.position.offset := by
  induction h with
  | blanks => exact .nil
  | @token n g x cs t ts _ _ _ ho _ ht hlaid ih =>
    refine .cons (fun u hu => ?_) ih
    have hle := (hlaid.bounds hu).1
    rw [Utf8.size_append] at hle
    rw [Token.stop, ht]
    omega

end Laid

/-- **Losslessness.** The tokens of a source with the blanks between them are the source. -/
theorem scan_lossless (source : List Char) :
    ∃ ts last, scan source = ts ++ [last] ∧ (∀ t ∈ ts, t.kind ≠ .eof) ∧
      last.kind = .eof ∧ last.length = 0 ∧ last.position.offset = Utf8.size source ∧
      Laid 0 source ts ∧
      ((scan source).flatMap fun t => t.spelling.toList) = (source.filter fun c => !isBlank c) ∧
      ((scan source).Pairwise fun t u =>
        t.position.offset < t.stop ∧ t.stop ≤ u.position.offset) ∧
      ((scan source).map Token.length).sum = (source.filter fun c => !isBlank c).length := by
  have hlaid : Laid 0 source (tokensFrom .start source) := laid_tokensFrom .start source
  have hlast : (Position.start.advanceAll source).offset = Utf8.size source := by
    rw [Position.advanceAll_offset, Position.start, Nat.zero_add]
  have htext := hlaid.flatMap_spelling
  refine ⟨tokensFrom .start source, Token.atEnd (Position.start.advanceAll source),
    scan_eq source, fun t => not_isEof_of_mem_tokensFrom, rfl, rfl, hlast, hlaid, ?_, ?_, ?_⟩
  · rw [scan_eq, List.flatMap_append, htext]
    exact List.append_nil _
  · rw [scan_eq, List.pairwise_append]
    refine ⟨hlaid.pairwise_stop_le.imp_of_mem fun ht _ hle => ⟨(hlaid.bounds ht).2.1, hle⟩,
      List.pairwise_singleton _ _, fun t ht u hu => ?_⟩
    obtain ⟨-, hlt, hle⟩ := hlaid.bounds ht
    rw [List.mem_singleton.1 hu]
    refine ⟨hlt, ?_⟩
    show t.stop ≤ (Position.start.advanceAll source).offset
    rw [hlast]
    omega
  · rw [scan_eq, List.map_append, List.sum_append, hlaid.sum_length, htext]
    rfl

end MonkeyScan
