import MonkeyScan.Proofs.Lexeme

/-!
# The alphabet, written out

The four classes of characters are given by conditions; here each is a list of characters
(`isBlank_iff_mem`, `isLetter_iff_mem`, `isDigit_iff_mem`, `isSymbolic_iff_mem`). So gaps, words and
integers are texts of characters in these lists, and the four together are the `alphabet` that a
source is built from (`isLegal_iff_mem_alphabet`). All characters of a class are ASCII, so that
class and list are compared on the first 128 characters.

For lexemes this is all or nothing: either every character of a lexeme is in the alphabet, or the
lexeme is illegal and is one character that is not (`Front.isLegal_or_illegal`). In particular an
equals sign or an exclamation mark is a symbol wherever it stands, although each can be the half
of a longer one.
-/

namespace MonkeyScan

/-- Blanks, letters with the underscore, digits and the characters of symbols. -/
def alphabet : List Char :=
  " \t\r\n".toList ++ "abcdefghijklmnopqrstuvwxyz".toList ++ "ABCDEFGHIJKLMNOPQRSTUVWXYZ_".toList ++
    "0123456789".toList ++ "+-*/<>()\x7b\x7d,;!=".toList

theorem utf8Size_of_isBlank {c : Char} (h : isBlank c = true) : c.utf8Size = 1 := by
  simp only [isBlank, Bool.or_eq_true, beq_iff_eq] at h
  rcases h with ((rfl | rfl) | rfl) | rfl <;> rfl

theorem Symbol.utf8Size_of_mem_spelling {s : Symbol} {c : Char} (h : c ∈ s.spelling.toList) :
    c.utf8Size = 1 := by
  have hall : (s.spelling.toList.all fun c => c.utf8Size == 1) = true := by cases s <;> rfl
  simpa using List.all_eq_true.1 hall c h

theorem utf8Size_of_isSymbolic {c : Char} (h : isSymbolic c = true) : c.utf8Size = 1 := by
  obtain ⟨s, hs⟩ := Option.isSome_iff_exists.1 h
  exact s.utf8Size_of_mem_spelling (by simp [Symbol.spelling_ofChar? hs])

/-! ## The classes, written out -/

/-- A class of ASCII characters is a list of characters if the two agree on the first 128. -/
theorem iff_mem_of_ascii {p : Char → Bool} {cs : List Char} {c : Char}
    (hascii : p c = true → c.utf8Size = 1)
    (hmem : ∀ n < 128, p (Char.ofNat n) = true → Char.ofNat n ∈ cs) (hall : cs.all p = true) :
    p c = true ↔ c ∈ cs := by
  constructor
  · intro h
    have hle := Char.utf8Size_eq_one_iff.1 (hascii h)
    have hlt : c.toNat < 128 := Nat.lt_succ_of_le (UInt32.le_iff_toNat_le.1 hle)
    have hc := hmem c.toNat hlt
    rw [Char.ofNat_toNat] at hc
    exact hc h
  · exact List.all_eq_true.1 hall c

theorem isBlank_iff_mem {c : Char} : isBlank c = true ↔ c ∈ " \t\r\n".toList :=
  iff_mem_of_ascii utf8Size_of_isBlank (by decide +kernel) (by decide +kernel)

theorem isLetter_iff_mem {c : Char} : isLetter c = true ↔
    c ∈ "abcdefghijklmnopqrstuvwxyz".toList ++ "ABCDEFGHIJKLMNOPQRSTUVWXYZ_".toList :=
  iff_mem_of_ascii utf8Size_of_isLetter (by decide +kernel) (by decide +kernel)

theorem isDigit_iff_mem {c : Char} : isDigit c = true ↔ c ∈ "0123456789".toList :=
  iff_mem_of_ascii utf8Size_of_isDigit (by decide +kernel) (by decide +kernel)

theorem isSymbolic_iff_mem {c : Char} :
    isSymbolic c = true ↔ c ∈ "+-*/<>()\x7b\x7d,;!=".toList :=
  iff_mem_of_ascii utf8Size_of_isSymbolic (by decide +kernel) (by decide +kernel)

theorem isLegal_iff_mem_alphabet {c : Char} : isLegal c = true ↔ c ∈ alphabet := by
  unfold isLegal alphabet
  simp only [Bool.or_eq_true, isBlank_iff_mem, isLetter_iff_mem, isDigit_iff_mem,
    isSymbolic_iff_mem, List.mem_append, or_assoc]

theorem isLegal_eq_false_iff {c : Char} : isLegal c = false ↔ c ∉ alphabet := by
  rw [← isLegal_iff_mem_alphabet, Bool.not_eq_true]

/-! ## Lexemes in the alphabet -/

theorem Symbol.isLegal_of_mem_spelling {s : Symbol} {c : Char} (h : c ∈ s.spelling.toList) :
    isLegal c = true := by
  have hall : s.spelling.toList.all isLegal = true := by cases s <;> rfl
  exact List.all_eq_true.1 hall c h

theorem isLegal_of_isLetter {c : Char} (h : isLetter c = true) : isLegal c = true := by
  simp [isLegal, h]

theorem isLegal_of_isDigit {c : Char} (h : isDigit c = true) : isLegal c = true := by
  simp [isLegal, h]

theorem isLegal_of_isBlank {c : Char} (h : isBlank c = true) : isLegal c = true := by
  simp [isLegal, h]

theorem Lexeme.Front.isLegal_or_illegal {c : Char} {cs : List Char} {l : Lexeme}
    (h : Front c cs l) (hc : isBlank c = false) :
    (l.kind ≠ .illegal ∧ ∀ d ∈ l.chars, isLegal d = true) ∨
      (l = ⟨.illegal, [c], 1⟩ ∧ isLegal c = false) := by
  cases h with
  | keyword k hl _ =>
    refine Or.inl ⟨by simp, fun d hd => ?_⟩
    exact isLegal_of_isLetter (of_mem_cons_takeWhile hl hd)
  | ident hl _ =>
    refine Or.inl ⟨by simp, fun d hd => ?_⟩
    exact isLegal_of_isLetter (of_mem_cons_takeWhile hl hd)
  | int _ hn =>
    refine Or.inl ⟨by simp, fun d hd => ?_⟩
    exact isLegal_of_isDigit (of_mem_cons_takeWhile hn hd)
  | symbol s => exact Or.inl ⟨by simp, fun d hd => Symbol.isLegal_of_mem_spelling hd⟩
  | illegal hl hn hs =>
    refine Or.inr ⟨rfl, ?_⟩
    simp [isLegal, isSymbolic, hc, hl, hn, Symbol.ofChar?_of_atFront?_eq_none hs]

end MonkeyScan
