import MonkeyScan.Proofs.Alphabet
import MonkeyScan.Proofs.Position
import MonkeyScan.Proofs.Scanner.Tokens
import MonkeyScan.Report

/-!
# Reports of scanned sources

What is to be reported of a source can be read off its characters: `IllegalCharacter.ofSource`
lists those that are not in the alphabet, each with the place that is counted in the text before
it, and has no part in scanning.

**Theorem (`check_exact`).** A report lists these characters and no others, and it is made of the
illegal tokens of the source, none of which is without an error.

A scanner takes a source in lexemes, most of them longer than one character. The two agree since
a lexeme is in the alphabet altogether, or is illegal and one character that is not
(`Front.isLegal_or_illegal`), so that no character outside is hidden in a longer token.
-/

namespace MonkeyScan

/-! ## Illegal characters by themselves -/

namespace IllegalCharacter

/-- The error of the character `c` at the index `i` of a source, if it is one. -/
def at? (source : List Char) (c : Char) (i : Nat) : Option IllegalCharacter :=
  if c ∈ alphabet then none else some ⟨c, .behind (source.take i)⟩

/-- The characters of a source that are not in the alphabet, in order, each with its place. -/
def ofSource (source : List Char) : List IllegalCharacter :=
  source.zipIdx.filterMap fun (c, i) => at? source c i

/-- Every character outside the alphabet is listed, and as often as it occurs. -/
theorem map_char_ofSource (source : List Char) :
    (ofSource source).map char = source.filter fun c => c ∉ alphabet := by
  have hchar : ∀ x : Char × Nat, (at? source x.1 x.2).map char =
      Option.guard (fun c => decide (c ∉ alphabet)) x.1 := by
    intro x
    by_cases hx : x.1 ∈ alphabet <;> simp [at?, Option.guard, hx]
  calc (ofSource source).map char
      = source.zipIdx.filterMap (Option.guard (fun c => decide (c ∉ alphabet)) ∘ Prod.fst) := by
        rw [ofSource, List.map_filterMap]
        exact List.filterMap_congr fun x _ => hchar x
    _ = source.filter fun c => c ∉ alphabet := by
        rw [← List.filterMap_map, List.zipIdx_map_fst, List.filterMap_eq_filter]

theorem ofSource_ne_nil_iff (source : List Char) :
    ofSource source ≠ [] ↔ ∃ c ∈ source, c ∉ alphabet := by
  rw [← not_iff_not, not_not, ← List.map_eq_nil_iff (f := char), map_char_ofSource,
    List.filter_eq_nil_iff]
  simp

/-- A text in the alphabet has no errors, wherever in a source it stands. -/
theorem filterMap_at?_of_isLegal (source : List Char) {cs : List Char}
    (h : ∀ c ∈ cs, isLegal c = true) (n : Nat) :
    ((cs.zipIdx n).filterMap fun (c, i) => at? source c i) = [] := by
  rw [List.filterMap_eq_nil_iff]
  intro x hx
  have hmem : x.1 ∈ alphabet := isLegal_iff_mem_alphabet.1 (h x.1 (List.fst_mem_of_mem_zipIdx hx))
  simp [at?, hmem]

theorem at?_append {c : Char} (h : isLegal c = false) (u cs : List Char) :
    at? (u ++ c :: cs) c u.length = some ⟨c, .behind u⟩ := by
  rw [at?, if_neg (isLegal_eq_false_iff.1 h), List.take_left]

end IllegalCharacter

/-! ## Illegal tokens -/

open IllegalCharacter

theorem Lexeme.ofToken?_token_of_ne {l : Lexeme} (h : l.kind ≠ .illegal) (p : Position) :
    ofToken? (l.token p) = none := by
  have hlegal : (l.token p).isIllegal = false := by simp [Token.isIllegal, Lexeme.token, h]
  exact ofToken?_eq_none_of_not_isIllegal hlegal

theorem Lexeme.ofToken?_token_illegal (c : Char) (p : Position) :
    ofToken? (Lexeme.token ⟨.illegal, [c], 1⟩ p) = some ⟨c, p⟩ := by
  simp [ofToken?, Lexeme.token, Lexeme.literal, Token.isIllegal]

/-- What is reported of a lexeme is what is to be reported of its characters. -/
theorem Lexeme.Front.filterMap_ofToken? {c : Char} {cs : List Char} {l : Lexeme}
    (h : Front c cs l) (hc : isBlank c = false) (u : List Char) :
    [l.token (.behind u)].filterMap ofToken? =
      (l.chars.zipIdx u.length).filterMap fun (d, i) => at? (u ++ c :: cs) d i := by
  rcases h.isLegal_or_illegal hc with ⟨hkind, hall⟩ | ⟨rfl, hillegal⟩
  · rw [filterMap_at?_of_isLegal _ hall]
    simp [Lexeme.ofToken?_token_of_ne hkind]
  · simp [Lexeme.ofToken?_token_illegal, at?_append hillegal]

/-- The errors of the text behind `u` are those of its characters. -/
theorem filterMap_ofToken?_tokensFrom (u cs : List Char) :
    (tokensFrom (.behind u) cs).filterMap ofToken? =
      (cs.zipIdx u.length).filterMap fun (c, i) => at? (u ++ cs) c i := by
  induction cs using Scanner.text_induction generalizing u with
  | blanks g hg =>
    rw [tokensFrom_blanks hg, filterMap_at?_of_isLegal _ fun c hc => isLegal_of_isBlank (hg c hc)]
    rfl
  | lexeme g c cs tail hg hc htail ih =>
    -- The gap has no errors, and those of the lexeme and of the tail are found in the same source.
    have hgap := filterMap_at?_of_isLegal (u ++ (g ++ c :: cs))
      (fun d hd => isLegal_of_isBlank (hg d hd)) u.length
    have hlexeme := (Lexeme.front_first c cs).filterMap_ofToken? hc (u ++ g)
    have htail' := ih (u ++ (g ++ (Lexeme.first c cs).chars))
    have hsource : u ++ (g ++ (Lexeme.first c cs).chars) ++ tail = u ++ (g ++ c :: cs) := by
      rw [htail]
      simp only [List.append_assoc]
    have hzip : (g ++ c :: cs).zipIdx u.length = g.zipIdx u.length ++
        ((Lexeme.first c cs).chars.zipIdx (u ++ g).length ++
          tail.zipIdx (u ++ (g ++ (Lexeme.first c cs).chars)).length) := by
      rw [htail, List.zipIdx_append, List.zipIdx_append]
      simp only [List.length_append, Nat.add_assoc]
    rw [tokensFrom_lexeme hg hc htail, Position.advanceAll_behind, Position.advanceAll_behind,
      ← List.singleton_append, List.filterMap_append, hlexeme, htail', hsource, hzip,
      List.filterMap_append, List.filterMap_append, hgap, List.append_assoc, List.nil_append]

/-- An illegal token holds the character that it was read from. -/
theorem literal_of_isIllegal {p : Position} {cs : List Char} {t : Token}
    (h : t ∈ tokensFrom p cs) (ht : t.isIllegal = true) : ∃ c, t.literal = String.ofList [c] := by
  obtain ⟨u, c, cs, -, -, rfl⟩ := exists_lexeme_of_mem h
  have hfront := Lexeme.front_first c cs
  rw [Token.isIllegal_iff] at ht
  generalize Lexeme.first c cs = l at hfront ht
  cases hfront with
  | illegal => exact ⟨c, rfl⟩
  | keyword | ident | int | symbol => cases ht

/-- Every illegal token is an error, and no other token is. -/
theorem map_ofToken?_filter (p : Position) (cs : List Char) :
    ((tokensFrom p cs).filter Token.isIllegal).map ofToken? =
      ((tokensFrom p cs).filterMap ofToken?).map some := by
  rw [List.map_filterMap, ← List.filterMap_eq_map, ← List.filterMap_eq_filter,
    List.filterMap_filterMap]
  refine List.filterMap_congr fun t ht => ?_
  cases hillegal : t.isIllegal with
  | false => simp [Option.guard, hillegal, ofToken?_eq_none_of_not_isIllegal hillegal]
  | true =>
    obtain ⟨c, hc⟩ := literal_of_isIllegal ht hillegal
    simp [Option.guard, hillegal, ofToken?, hc]

theorem filter_isIllegal_scan (source : List Char) :
    (scan source).filter Token.isIllegal = (tokensFrom .start source).filter Token.isIllegal := by
  rw [scan_eq, List.filter_append]
  exact List.append_nil _

/-! ## Reports -/

namespace Report

theorem count_check (name : String) (source : List Char) :
    (check name source).count = ((tokensFrom .start source).filter Token.isIllegal).length := by
  have hlength := congrArg List.length (map_ofToken?_filter .start source)
  rw [List.length_map, List.length_map] at hlength
  exact hlength.symm

/-- The errors that a scan leads to are those of the characters themselves. -/
theorem errors_check (name : String) (source : List Char) :
    (check name source).errors = ofSource source := by
  have h := filterMap_ofToken?_tokensFrom [] source
  rwa [← Position.advanceAll_start, Position.advanceAll_nil, List.nil_append] at h

/-- **Exactness.** The errors of a source are its characters outside the alphabet, each in its
place and as often as it occurs. They are also the errors of its illegal tokens, every one of
which has one; so there are errors exactly if there is such a character. -/
theorem check_exact (name : String) (source : List Char) :
    (check name source).errors = ofSource source ∧
      (check name source).errors.map IllegalCharacter.char = source.filter (fun c => c ∉ alphabet) ∧
      ((scan source).filter Token.isIllegal).map ofToken? = (check name source).errors.map some ∧
      ((check name source).hasErrors = true ↔ ∃ c ∈ source, c ∉ alphabet) := by
  have herrors := errors_check name source
  refine ⟨herrors, ?_, ?_, ?_⟩
  · rw [herrors, map_char_ofSource]
  · rw [filter_isIllegal_scan]
    exact map_ofToken?_filter .start source
  · rw [← ofSource_ne_nil_iff, ← herrors]
    simp [hasErrors]

end Report

end MonkeyScan
