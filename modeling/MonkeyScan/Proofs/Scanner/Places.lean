import MonkeyScan.Proofs.Scanner.Parts

/-!
# Where tokens stand

A scanner carries its place along as it reads. What it has read at a token is the part of the
source in front of that token, so that the place is given by this part alone, whatever was made of
it: the line by its line feeds, the column by what follows the last of them, the offset by its
bytes.

**Theorem (`scan_positions`).** This holds of every token of a scan, the end token too. Places are
therefore in order, by line and column as well as by offset, and no two tokens share one: between
two tokens a scanner has read at least the first of them (`pairwise_reaches_scan`).
-/

namespace MonkeyScan

theorem exists_behind_of_mem_scan {source : List Char} {t : Token} (h : t ∈ scan source) :
    ∃ u, u <+: source ∧ t.position = .behind u := by
  rw [scan_eq, List.mem_append, List.mem_singleton] at h
  rcases h with h | rfl
  · obtain ⟨u, v, rfl, ht⟩ := exists_position_eq h
    exact ⟨u, List.prefix_append u v, by rw [ht, Position.advanceAll_start]⟩
  · exact ⟨source, List.prefix_rfl, Position.advanceAll_start source⟩

/-! ## The order of tokens -/

theorem reaches_end_of_mem {p : Position} {cs : List Char} {t : Token}
    (h : t ∈ tokensFrom p cs) : t.position.Reaches (p.advanceAll cs) := by
  obtain ⟨u, c, ds, rfl, -, rfl⟩ := exists_lexeme_of_mem h
  rw [Position.advanceAll_append]
  exact Position.reaches_advanceAll _ (List.cons_ne_nil c ds)

theorem pairwise_reaches_tokensFrom (p : Position) (cs : List Char) :
    (tokensFrom p cs).Pairwise fun t u => t.position.Reaches u.position := by
  induction cs using Scanner.text_induction generalizing p with
  | blanks g hg =>
    rw [tokensFrom_blanks hg]
    exact .nil
  | lexeme g c cs tail hg hc htail ih =>
    rw [tokensFrom_lexeme hg hc htail]
    refine .cons (fun t ht => ?_) (ih _)
    obtain ⟨u, v, -, hu⟩ := exists_position_eq ht
    have hne : (Lexeme.first c cs).chars ++ u ≠ [] :=
      List.append_ne_nil_of_left_ne_nil
        (List.length_pos_iff.1 (Lexeme.first_chars_length_pos c cs)) u
    rw [hu, ← Position.advanceAll_append, List.append_assoc, Position.advanceAll_append]
    exact Position.reaches_advanceAll _ hne

theorem pairwise_reaches_scan (source : List Char) :
    (scan source).Pairwise fun t u => t.position.Reaches u.position := by
  rw [scan_eq, List.pairwise_append]
  refine ⟨pairwise_reaches_tokensFrom .start source, List.pairwise_singleton _ _, ?_⟩
  intro t ht u hu
  rw [List.mem_singleton.1 hu]
  exact reaches_end_of_mem ht

/-- **Places in closed form.** Every token of a source stands behind a part of it that has as many
bytes as its offset says; its line and column are counted in that part. Along a scan the places
are in strict order, and no two tokens have the same one. -/
theorem scan_positions (source : List Char) :
    (∀ t ∈ scan source, ∃ u, u <+: source ∧ Utf8.size u = t.position.offset ∧
      t.position.line = 1 + u.count '\n' ∧
      t.position.column = 1 + (u.rtakeWhile (· ≠ '\n')).length) ∧
    ((scan source).Pairwise fun t u => t.position.Before u.position) ∧
    ((scan source).map fun t => (t.position.line, t.position.column)).Nodup ∧
    ((scan source).map fun t => t.position.offset).Nodup := by
  have horder := pairwise_reaches_scan source
  refine ⟨fun t ht => ?_, horder.imp fun h => h.before, ?_, ?_⟩
  · obtain ⟨u, hu, hposition⟩ := exists_behind_of_mem_scan ht
    rw [hposition]
    exact ⟨u, hu, rfl, rfl, rfl⟩
  · rw [List.Nodup, List.pairwise_map]
    exact horder.imp fun h => h.before.line_column_ne
  · rw [List.Nodup, List.pairwise_map]
    exact horder.imp fun h => Nat.ne_of_lt h.offset_lt

end MonkeyScan
