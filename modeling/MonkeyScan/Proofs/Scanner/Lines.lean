import MonkeyScan.Proofs.Scanner.Parts
import MonkeyScan.Proofs.Text.Split

/-!
# Scanning line by line

A line feed is a blank, so that a text can be cut behind each of them: its tokens are those of its
first line and then those of the rest, which stands at column 1 of the next line
(`tokensFrom_line`).

**Theorem (`tokensOnLine_eq`).** The tokens on a line of a text are those of that line scanned on
its own, where it stands.
-/

namespace MonkeyScan

open Text

/-! ## Cutting behind a line feed -/

/-- The place behind a line that stands at `p` and its line feed. -/
def Position.nextLine (p : Position) (line : List Char) : Position :=
  (p.advanceAll line).advance '\n'

theorem Position.nextLine_line (p : Position) {line : List Char} (h : '\n' ∉ line) :
    (p.nextLine line).line = p.line + 1 := by
  rw [nextLine, advance_newline, advanceAll_line_of_not_mem p h]

theorem Position.nextLine_column (p : Position) (line : List Char) :
    (p.nextLine line).column = 1 := by
  rw [nextLine, advance_newline]

theorem tokensFrom_line (p : Position) (line rest : List Char) :
    tokensFrom p (line ++ '\n' :: rest) =
      tokensFrom p line ++ tokensFrom (p.nextLine line) rest := by
  have hseam : ∀ d ∈ ('\n' :: rest).head?, isBlank d = true := by
    intro d hd
    rw [← Option.some.inj hd]
    rfl
  rw [tokensFrom_append_of_isBlank p hseam, ← List.singleton_append,
    tokensFrom_blanks_append (allBlank_singleton rfl)]
  rfl

/-! ## Tokens on a line -/

/-- Those of `ts` that stand on line `n`. -/
def tokensOnLine (n : Nat) (ts : List Token) : List Token :=
  ts.filter fun t => t.position.line = n

theorem tokensOnLine_append (n : Nat) (ts us : List Token) :
    tokensOnLine n (ts ++ us) = tokensOnLine n ts ++ tokensOnLine n us :=
  List.filter_append ..

theorem tokensOnLine_self (p : Position) {line : List Char} (h : '\n' ∉ line) :
    tokensOnLine p.line (tokensFrom p line) = tokensFrom p line := by
  refine List.filter_eq_self.2 fun t ht => ?_
  rw [line_eq_of_mem ht h, decide_eq_true_eq]

/-- A text that stands further down has no tokens on line `n`. -/
theorem tokensOnLine_of_lt {n : Nat} {p : Position} (h : n < p.line) (cs : List Char) :
    tokensOnLine n (tokensFrom p cs) = [] := by
  refine List.filter_eq_nil_iff.2 fun t ht => ?_
  have hle := le_line_of_mem ht
  rw [decide_eq_true_eq]
  omega

theorem tokensOnLine_of_gt {n : Nat} {p : Position} (h : p.line < n) {line : List Char}
    (hline : '\n' ∉ line) : tokensOnLine n (tokensFrom p line) = [] := by
  refine List.filter_eq_nil_iff.2 fun t ht => ?_
  rw [line_eq_of_mem ht hline, decide_eq_true_eq]
  omega

/-- **One line of a scan.** The tokens on a line of a text are those of the line on its own, for a
text that begins at column 1. -/
theorem tokensOnLine_eq {p : Position} (hp : p.column = 1) {text line : List Char} {i : Nat}
    (h : (lines '\n' text)[i]? = some line) :
    ∃ o, tokensOnLine (p.line + i) (tokensFrom p text) = tokensFrom ⟨p.line + i, 1, o⟩ line := by
  induction text using line_induction '\n' generalizing p i with
  | last piece hpiece =>
    by_cases hne : piece = []
    · subst hne
      cases h
    · rw [lines_of_not_mem hpiece hne] at h
      obtain _ | i := i
      · obtain rfl : piece = line := Option.some.inj h
        refine ⟨p.offset, ?_⟩
        rw [Nat.add_zero, tokensOnLine_self p hpiece, ← hp]
      · cases h
  | cons piece rest hpiece ih =>
    rw [lines_append_cons hpiece] at h
    have hline := p.nextLine_line hpiece
    rw [tokensFrom_line, tokensOnLine_append]
    obtain _ | i := i
    -- The first line: all of the rest stands further down.
    · obtain rfl : piece = line := Option.some.inj h
      refine ⟨p.offset, ?_⟩
      rw [Nat.add_zero, tokensOnLine_self p hpiece,
        tokensOnLine_of_lt (by rw [hline]; exact Nat.lt_succ_self _), List.append_nil, ← hp]
    -- A later line: it is one of the rest, and the first line stands further up.
    · obtain ⟨o, ho⟩ := ih (p.nextLine_column piece) h
      refine ⟨o, ?_⟩
      rw [hline, Nat.add_assoc, Nat.add_comm 1] at ho
      rw [tokensOnLine_of_gt (by omega) hpiece, List.nil_append, ho]

/-! ## Counts -/

theorem length_tokensFrom (p : Position) (cs : List Char) :
    (tokensFrom p cs).length = (tokensFrom .start cs).length := by
  rw [tokensFrom_eq_map_shift p, List.length_map]

theorem length_filter_isIllegal (p : Position) (cs : List Char) :
    ((tokensFrom p cs).filter Token.isIllegal).length =
      ((tokensFrom .start cs).filter Token.isIllegal).length := by
  rw [tokensFrom_eq_map_shift p, List.filter_map, List.length_map]
  rfl

end MonkeyScan
