import MonkeyScan.Text.Combining
import MonkeyScan.Text.Ignorable
import MonkeyScan.Text.Unprintable

/-!
# Quoted text

A character or a text between quotes, so that a reader sees what is in it: a character without a
mark of its own, or one that would attach to the quote before it, is written as its code point in
hexadecimal between braces, and the delimiter and the backslash are written with a backslash. The
other kind of quote stands as it is.

`isPrintable_of_mem_escape` says that nothing without a mark is left in what is written.
-/

namespace MonkeyScan.Text

/-- Characters that show as a mark of their own. -/
def isPrintable (c : Char) : Bool :=
  !unprintable.contains c && !combining.contains c && !ignorable.contains c

/-- The code point in lower-case hexadecimal, without leading zeros. -/
def hexadecimal (c : Char) : List Char := Nat.toDigits 16 c.toNat

/-- How `c` is written between two `delimiter`s. -/
def escape (delimiter c : Char) : List Char :=
  if c = '\x00' then ['\\', '0']
  else if c = '\t' then ['\\', 't']
  else if c = '\n' then ['\\', 'n']
  else if c = '\r' then ['\\', 'r']
  else if c = '\\' ∨ c = delimiter then ['\\', c]
  else if isPrintable c then [c]
  else ['\\', 'u', '\x7b'] ++ hexadecimal c ++ ['\x7d']

/-- A character between single quotes. -/
def quoteChar (c : Char) : String := String.ofList ('\'' :: escape '\'' c ++ ['\''])

/-- A text between double quotes. -/
def quote (s : String) : String := String.ofList ('"' :: s.toList.flatMap (escape '"') ++ ['"'])

theorem mem_hexadecimal {c x : Char} (h : x ∈ hexadecimal c) : ∃ d < 16, x = Nat.digitChar d := by
  have key : ∀ n, x ∈ Nat.toDigits 16 n → ∃ d < 16, x = Nat.digitChar d := by
    intro n
    induction n using Nat.strongRecOn with
    | ind n ih =>
      intro hx
      by_cases hn : n < 16
      · rw [Nat.toDigits_of_lt_base hn] at hx
        exact ⟨n, hn, by simpa using hx⟩
      · rw [Nat.toDigits_of_base_le (by decide) (by omega), List.mem_append] at hx
        rcases hx with hx | hx
        · exact ih (n / 16) (by omega) hx
        · exact ⟨n % 16, by omega, by simpa using hx⟩
  exact key c.toNat h

theorem isPrintable_of_mem_escape {d c x : Char} (hd : isPrintable d = true)
    (h : x ∈ escape d c) : isPrintable x = true := by
  have hslash : isPrintable '\\' = true := by decide +kernel
  have hhex : ∀ d < 16, isPrintable (Nat.digitChar d) = true := by decide +kernel
  unfold escape at h
  split at h
  case isTrue => revert h; simp; rintro (rfl | rfl) <;> decide +kernel
  split at h
  case isTrue => revert h; simp; rintro (rfl | rfl) <;> decide +kernel
  split at h
  case isTrue => revert h; simp; rintro (rfl | rfl) <;> decide +kernel
  split at h
  case isTrue => revert h; simp; rintro (rfl | rfl) <;> decide +kernel
  split at h
  case isTrue hc =>
    simp only [List.mem_cons, List.not_mem_nil, or_false] at h
    rcases h with rfl | rfl
    · exact hslash
    · rcases hc with rfl | rfl
      · exact hslash
      · exact hd
  split at h
  case isTrue hp =>
    simp only [List.mem_singleton] at h
    exact h ▸ hp
  case isFalse =>
    simp only [List.mem_append, List.mem_cons, List.not_mem_nil, or_false] at h
    rcases h with ((rfl | rfl | rfl) | h) | rfl
    · exact hslash
    · decide +kernel
    · decide +kernel
    · obtain ⟨k, hk, rfl⟩ := mem_hexadecimal h
      exact hhex k hk
    · decide +kernel

end MonkeyScan.Text
