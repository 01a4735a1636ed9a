import MonkeyScan.Alphabet
import MonkeyScan.Token

/-!
# Lexemes

What a scanner takes from the front of a text in one piece: the longest word or integer, a symbol
of one or two characters, or one character that belongs to none of them. A lexeme becomes a token
when it is given a place.

`first_chars_prefix` says that a lexeme is the front of its text, and `first_chars_length_pos` that
it is not empty.
-/

namespace MonkeyScan

/-- A token before it has a place: its kind, the characters it was read from and the length to
note. -/
structure Lexeme where
  kind : Kind
  chars : List Char
  length : Nat
deriving DecidableEq

namespace Lexeme

/-- The lexeme at the front of `c :: cs`, where `c` is no blank. Words and integers are measured in
bytes, of which each of their characters takes one. -/
def first (c : Char) (cs : List Char) : Lexeme :=
  match Symbol.ofChar? c with
  | some .bang =>
    if cs.head? = some '=' then ⟨.symbol .notEq, [c, '='], 2⟩ else ⟨.symbol .bang, [c], 1⟩
  | some .assign =>
    if cs.head? = some '=' then ⟨.symbol .eq, [c, '='], 2⟩ else ⟨.symbol .assign, [c], 1⟩
  | some s => ⟨.symbol s, [c], 1⟩
  | none =>
    if isLetter c then
      let word := c :: cs.takeWhile isLetter
      ⟨.ofWord (String.ofList word), word, Utf8.size word⟩
    else if isDigit c then
      let digits := c :: cs.takeWhile isDigit
      ⟨.int, digits, Utf8.size digits⟩
    else ⟨.illegal, [c], 1⟩

/-- The text to keep: that of symbols and reserved words is not kept. -/
def literal (l : Lexeme) : String :=
  match l.kind with
  | .ident | .int | .illegal => String.ofList l.chars
  | .symbol _ | .keyword _ | .eof => ""

def token (l : Lexeme) (p : Position) : Token := ⟨l.kind, l.literal, p, l.length⟩

theorem first_kind_ne_eof (c : Char) (cs : List Char) : (first c cs).kind ≠ .eof := by
  unfold first
  split
  · split <;> simp
  · split <;> simp
  · simp
  · split
    · exact Kind.ofWord_ne_eof _
    · split <;> simp

/-- A lexeme is the front of the text it is taken from, and not empty. -/
theorem first_chars (c : Char) (cs : List Char) :
    ∃ tail, (first c cs).chars = c :: tail ∧ tail <+: cs := by
  have hequals : cs.head? = some '=' → ['='] <+: cs := by
    intro h
    obtain ⟨ds, rfl⟩ := List.head?_eq_some_iff.1 h
    exact ⟨ds, rfl⟩
  have hnil : [] <+: cs := List.nil_prefix
  unfold first
  split
  · split
    · next h => exact ⟨_, rfl, hequals h⟩
    · exact ⟨_, rfl, hnil⟩
  · split
    · next h => exact ⟨_, rfl, hequals h⟩
    · exact ⟨_, rfl, hnil⟩
  · exact ⟨_, rfl, hnil⟩
  · split
    · exact ⟨_, rfl, List.takeWhile_prefix isLetter⟩
    · split
      · exact ⟨_, rfl, List.takeWhile_prefix isDigit⟩
      · exact ⟨_, rfl, hnil⟩

theorem first_chars_prefix (c : Char) (cs : List Char) : (first c cs).chars <+: c :: cs := by
  obtain ⟨tail, h, ht⟩ := first_chars c cs
  rw [h]
  exact List.cons_prefix_cons.2 ⟨rfl, ht⟩

theorem first_chars_length_pos (c : Char) (cs : List Char) : 0 < (first c cs).chars.length := by
  obtain ⟨tail, h, -⟩ := first_chars c cs
  simp [h]

end Lexeme

end MonkeyScan
