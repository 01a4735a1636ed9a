import MonkeyScan.Token.Kind

/-!
# The alphabet

The characters that a source text is built from: blanks between tokens, letters of words, digits
of integers and the characters of symbols. All of them are ASCII; every other character is
illegal wherever it stands. No character is in two of the four classes.
-/

namespace MonkeyScan

/-- Characters that separate tokens and are otherwise skipped. -/
def isBlank (c : Char) : Bool := c == ' ' || c == '\t' || c == '\r' || c == '\n'

/-- The ASCII letters and the underscore. -/
def isLetter (c : Char) : Bool :=
  ('a' ≤ c && c ≤ 'z') || ('A' ≤ c && c ≤ 'Z') || c == '_'

/-- The ASCII digits. -/
def isDigit (c : Char) : Bool := '0' ≤ c && c ≤ '9'

/-- Characters that are a symbol alone. -/
def isSymbolic (c : Char) : Bool := (Symbol.ofChar? c).isSome

def isLegal (c : Char) : Bool := isBlank c || isLetter c || isDigit c || isSymbolic c

theorem isLetter_eq_false_of_isBlank {c : Char} (h : isBlank c = true) : isLetter c = false := by
  simp only [isBlank, Bool.or_eq_true, beq_iff_eq] at h
  rcases h with ((rfl | rfl) | rfl) | rfl <;> decide

theorem isDigit_eq_false_of_isBlank {c : Char} (h : isBlank c = true) : isDigit c = false := by
  simp only [isBlank, Bool.or_eq_true, beq_iff_eq] at h
  rcases h with ((rfl | rfl) | rfl) | rfl <;> decide

theorem isDigit_eq_false_of_isLetter {c : Char} (h : isLetter c = true) : isDigit c = false := by
  cases hd : isDigit c with
  | false => rfl
  | true =>
    simp only [isLetter, isDigit, Bool.or_eq_true, Bool.and_eq_true, decide_eq_true_eq, beq_iff_eq,
      Char.le_def, UInt32.le_iff_toNat_le] at h hd
    rcases h with (h | h) | rfl
    · simp at h hd; omega
    · simp at h hd; omega
    · revert hd; decide

end MonkeyScan
