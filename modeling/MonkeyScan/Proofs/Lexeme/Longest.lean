import MonkeyScan.Proofs.Lexeme

/-!
# The longest lexeme

The lexical grammar as three languages, said without the scanner: the spellings of symbols, runs
of letters and runs of digits. A text of any of them `IsLexeme`; `Longest w cs` says that `w` is
the longest of them that `cs` begins with, and `Classified w k l` that a lexeme `w` is of kind `k`
with literal `l`.

Main statement (`Front.longest_or_illegal`): the lexeme at the front of a text is the longest one,
classified as it has to be; where no lexeme begins, it is one illegal character. The scanner
decides by the first character, since no symbol begins with a letter or a digit, and by at most
one more, since a symbol of two characters is told from its first by an equals sign.
-/

namespace MonkeyScan

/-! ## The three languages -/

/-- A text that spells a symbol. -/
def IsOperator (w : List Char) : Prop := ∃ s : Symbol, s.spelling.toList = w

/-- A text of ASCII letters and underscores, not empty. -/
def IsWord (w : List Char) : Prop := w ≠ [] ∧ ∀ c ∈ w, isLetter c = true

/-- A text of ASCII digits, not empty. -/
def IsNumeral (w : List Char) : Prop := w ≠ [] ∧ ∀ c ∈ w, isDigit c = true

def IsLexeme (w : List Char) : Prop := IsOperator w ∨ IsWord w ∨ IsNumeral w

/-- The text `w` is the longest lexeme that `cs` begins with. -/
structure Longest (w cs : List Char) : Prop where
  isLexeme : IsLexeme w
  atFront : w <+: cs
  length_le : ∀ v, v <+: cs → IsLexeme v → v.length ≤ w.length

/-- The kind and the literal of a lexeme. -/
inductive Classified : List Char → Kind → String → Prop
  | operator (s : Symbol) : Classified s.spelling.toList (.symbol s) ""
  | reserved (k : Keyword) : Classified k.word.toList (.keyword k) ""
  | name {w : List Char} : IsWord w → (∀ k : Keyword, k.word.toList ≠ w) →
      Classified w .ident (String.ofList w)
  | numeral {w : List Char} : IsNumeral w → Classified w .int (String.ofList w)

/-! ## Spellings of symbols -/

namespace Symbol

theorem head_spelling (s : Symbol) :
    ∃ d ds, s.spelling.toList = d :: ds ∧ isLetter d = false ∧ isDigit d = false := by
  cases s <;> exact ⟨_, _, rfl, by decide, by decide⟩

/-- A symbol is spelled by one character, or by two of which the second is an equals sign. -/
theorem spelling_cases (s : Symbol) :
    (∃ d, s.spelling.toList = [d] ∧ ofChar? d = some s) ∨
      (s.spelling.toList = ['=', '='] ∧ s = eq) ∨ (s.spelling.toList = ['!', '='] ∧ s = notEq) := by
  cases s with
  | eq => exact Or.inr (Or.inl ⟨rfl, rfl⟩)
  | notEq => exact Or.inr (Or.inr ⟨rfl, rfl⟩)
  | _ => exact Or.inl ⟨_, rfl, rfl⟩

/-- Where a text begins with a symbol, the one that is taken is no shorter. -/
theorem length_le_atFront? {s : Symbol} {c : Char} {cs : List Char}
    (h : s.spelling.toList <+: c :: cs) :
    ∃ t, atFront? c cs = some t ∧ s.spelling.toList.length ≤ t.spelling.toList.length := by
  rcases s.spelling_cases with ⟨d, hs, hd⟩ | ⟨hs, rfl⟩ | ⟨hs, rfl⟩
  · rw [hs, List.cons_prefix_cons] at h
    obtain ⟨rfl, -⟩ := h
    rw [hs]
    unfold atFront?
    split
    · exact ⟨eq, rfl, by simp [spelling]⟩
    · split
      · exact ⟨notEq, rfl, by simp [spelling]⟩
      · exact ⟨s, hd, by simp [hs]⟩
  · rw [hs, List.cons_prefix_cons] at h
    obtain ⟨rfl, ds, rfl⟩ := h
    exact ⟨eq, by simp [atFront?], Nat.le_refl _⟩
  · rw [hs, List.cons_prefix_cons] at h
    obtain ⟨rfl, ds, rfl⟩ := h
    exact ⟨notEq, by simp [atFront?], Nat.le_refl _⟩

end Symbol

/-! ## Lexemes by their first character -/

theorem IsLexeme.ne_nil {w : List Char} (h : IsLexeme w) : w ≠ [] := by
  rcases h with ⟨s, rfl⟩ | h | h
  · obtain ⟨d, ds, hs, -⟩ := s.head_spelling
    simp [hs]
  · exact h.1
  · exact h.1

theorem IsLexeme.isWord {c : Char} {cs : List Char} (h : IsLexeme (c :: cs))
    (hc : isLetter c = true) : IsWord (c :: cs) := by
  rcases h with ⟨s, hs⟩ | h | h
  · obtain ⟨d, ds, hd, hl, -⟩ := s.head_spelling
    rw [hd, List.cons.injEq] at hs
    rw [hs.1, hc] at hl
    cases hl
  · exact h
  · have hd := h.2 c List.mem_cons_self
    rw [isDigit_eq_false_of_isLetter hc] at hd
    cases hd

theorem IsLexeme.isNumeral {c : Char} {cs : List Char} (h : IsLexeme (c :: cs))
    (hl : isLetter c = false) (hc : isDigit c = true) : IsNumeral (c :: cs) := by
  rcases h with ⟨s, hs⟩ | h | h
  · obtain ⟨d, ds, hd, -, hn⟩ := s.head_spelling
    rw [hd, List.cons.injEq] at hs
    rw [hs.1, hc] at hn
    cases hn
  · have hd := h.2 c List.mem_cons_self
    rw [hl] at hd
    cases hd
  · exact h

theorem IsLexeme.isOperator {c : Char} {cs : List Char} (h : IsLexeme (c :: cs))
    (hl : isLetter c = false) (hn : isDigit c = false) : IsOperator (c :: cs) := by
  rcases h with h | h | h
  · exact h
  · have hd := h.2 c List.mem_cons_self
    rw [hl] at hd
    cases hd
  · have hd := h.2 c List.mem_cons_self
    rw [hn] at hd
    cases hd

/-- The lexemes that `c :: cs` begins with all begin with `c`. -/
theorem IsLexeme.eq_cons {c : Char} {v cs : List Char} (h : IsLexeme v) (hv : v <+: c :: cs) :
    ∃ ds, v = c :: ds ∧ ds <+: cs := by
  obtain _ | ⟨d, ds⟩ := v
  · exact absurd rfl h.ne_nil
  · obtain ⟨rfl, hds⟩ := List.cons_prefix_cons.1 hv
    exact ⟨ds, rfl, hds⟩

/-- A run is as long as any beginning of the text in its class. -/
theorem length_le_takeWhile {p : Char → Bool} {ds cs : List Char} (h : ds <+: cs)
    (hp : ∀ d ∈ ds, p d = true) : ds.length ≤ (cs.takeWhile p).length := by
  obtain ⟨tail, rfl⟩ := h
  rw [List.takeWhile_append_of_pos hp, List.length_append]
  exact Nat.le_add_right _ _

/-! ## Runs -/

theorem longest_word {c : Char} (hc : isLetter c = true) (cs : List Char) :
    Longest (c :: cs.takeWhile isLetter) (c :: cs) where
  isLexeme := Or.inr (Or.inl ⟨List.cons_ne_nil _ _, fun _ => of_mem_cons_takeWhile hc⟩)
  atFront := List.cons_prefix_cons.2 ⟨rfl, List.takeWhile_prefix isLetter⟩
  length_le v hv h := by
    obtain ⟨ds, rfl, hds⟩ := h.eq_cons hv
    have hw := (h.isWord hc).2
    exact Nat.succ_le_succ (length_le_takeWhile hds fun d hd => hw d (List.mem_cons_of_mem c hd))

theorem longest_numeral {c : Char} (hl : isLetter c = false) (hc : isDigit c = true)
    (cs : List Char) : Longest (c :: cs.takeWhile isDigit) (c :: cs) where
  isLexeme := Or.inr (Or.inr ⟨List.cons_ne_nil _ _, fun _ => of_mem_cons_takeWhile hc⟩)
  atFront := List.cons_prefix_cons.2 ⟨rfl, List.takeWhile_prefix isDigit⟩
  length_le v hv h := by
    obtain ⟨ds, rfl, hds⟩ := h.eq_cons hv
    have hw := (h.isNumeral hl hc).2
    exact Nat.succ_le_succ (length_le_takeWhile hds fun d hd => hw d (List.mem_cons_of_mem c hd))

theorem longest_operator {c : Char} {cs : List Char} {s : Symbol} (hl : isLetter c = false)
    (hn : isDigit c = false) (hs : Symbol.atFront? c cs = some s) :
    Longest s.spelling.toList (c :: cs) where
  isLexeme := Or.inl ⟨s, rfl⟩
  atFront := by
    obtain ⟨tail, hs, htail⟩ := Lexeme.spelling_of_atFront? hs
    rw [hs]
    exact List.cons_prefix_cons.2 ⟨rfl, htail⟩
  length_le v hv h := by
    obtain ⟨ds, rfl, hds⟩ := h.eq_cons hv
    obtain ⟨t, ht⟩ := h.isOperator hl hn
    rw [← ht] at hv ⊢
    obtain ⟨u, hu, hle⟩ := Symbol.length_le_atFront? hv
    rw [hs] at hu
    cases hu
    exact hle

theorem not_isLexeme_of_atFront? {c : Char} {cs v : List Char} (hl : isLetter c = false)
    (hn : isDigit c = false) (hs : Symbol.atFront? c cs = none) (hv : v <+: c :: cs) :
    ¬ IsLexeme v := by
  intro h
  obtain ⟨ds, rfl, hds⟩ := h.eq_cons hv
  obtain ⟨t, ht⟩ := h.isOperator hl hn
  rw [← ht] at hv
  obtain ⟨u, hu, -⟩ := Symbol.length_le_atFront? hv
  rw [hs] at hu
  cases hu

/-! ## The lexeme that is taken -/

namespace Lexeme.Front

theorem longest_or_illegal {c : Char} {cs : List Char} {l : Lexeme} (h : Front c cs l) :
    (Longest l.chars (c :: cs) ∧ Classified l.chars l.kind l.literal) ∨
      (l = ⟨.illegal, [c], 1⟩ ∧ ∀ v, v <+: c :: cs → ¬ IsLexeme v) := by
  cases h with
  | keyword k hl hk =>
    refine Or.inl ⟨longest_word hl cs, ?_⟩
    rw [← hk]
    exact .reserved k
  | ident hl hk =>
    exact Or.inl ⟨longest_word hl cs,
      .name ⟨List.cons_ne_nil _ _, fun _ => of_mem_cons_takeWhile hl⟩ hk⟩
  | int hl hd =>
    exact Or.inl ⟨longest_numeral hl hd cs,
      .numeral ⟨List.cons_ne_nil _ _, fun _ => of_mem_cons_takeWhile hd⟩⟩
  | symbol s hl hd hs => exact Or.inl ⟨longest_operator hl hd hs, .operator s⟩
  | illegal hl hd hs => exact Or.inr ⟨rfl, fun _ => not_isLexeme_of_atFront? hl hd hs⟩

end Lexeme.Front

/-! ## Uniqueness -/

theorem Longest.unique {v w cs : List Char} (hv : Longest v cs) (hw : Longest w cs) : v = w :=
  have hle := hw.length_le v hv.atFront hv.isLexeme
  (List.prefix_of_prefix_length_le hv.atFront hw.atFront hle).eq_of_length_le
    (hv.length_le w hw.atFront hw.isLexeme)

theorem Symbol.spelling_injective {s t : Symbol} (h : s.spelling = t.spelling) : s = t := by
  revert h; cases s <;> cases t <;> decide

theorem Symbol.not_isWord_spelling (s : Symbol) : ¬ IsWord s.spelling.toList := by
  intro h
  obtain ⟨d, ds, hs, hl, -⟩ := s.head_spelling
  have hd := h.2 d (by simp [hs])
  rw [hl] at hd
  cases hd

theorem Symbol.not_isNumeral_spelling (s : Symbol) : ¬ IsNumeral s.spelling.toList := by
  intro h
  obtain ⟨d, ds, hs, -, hn⟩ := s.head_spelling
  have hd := h.2 d (by simp [hs])
  rw [hn] at hd
  cases hd

theorem IsWord.not_isNumeral {w : List Char} (h : IsWord w) : ¬ IsNumeral w := by
  intro hn
  obtain ⟨c, hc⟩ := List.exists_mem_of_ne_nil w h.1
  have hd := hn.2 c hc
  rw [isDigit_eq_false_of_isLetter (h.2 c hc)] at hd
  cases hd

theorem Keyword.isWord_word (k : Keyword) : IsWord k.word.toList := by
  have hall : k.word.toList.all isLetter = true := by cases k <;> rfl
  refine ⟨?_, List.all_eq_true.1 hall⟩
  cases k <;> decide

/-- A lexeme has one kind and one literal. -/
theorem Classified.unique {w : List Char} {k k' : Kind} {l l' : String} (h : Classified w k l)
    (h' : Classified w k' l') : k = k' ∧ l = l' := by
  generalize hv : w = v at h'
  cases h with
  | operator s =>
    cases h' with
    | operator t =>
      have hst := Symbol.spelling_injective (String.toList_inj.1 hv)
      exact ⟨congrArg Kind.symbol hst, rfl⟩
    | reserved k => exact absurd (hv ▸ k.isWord_word) s.not_isWord_spelling
    | name hw => exact absurd (hv ▸ hw) s.not_isWord_spelling
    | numeral hw => exact absurd (hv ▸ hw) s.not_isNumeral_spelling
  | reserved k =>
    cases h' with
    | operator t => exact absurd (hv ▸ k.isWord_word) t.not_isWord_spelling
    | reserved j =>
      have hkj := Keyword.word_injective (String.toList_inj.1 hv)
      exact ⟨congrArg Kind.keyword hkj, rfl⟩
    | name _ hk => exact absurd hv (hk k)
    | numeral hw => exact absurd (hv ▸ hw) k.isWord_word.not_isNumeral
  | name hw hk =>
    subst hv
    cases h' with
    | operator t => exact absurd hw t.not_isWord_spelling
    | reserved j => exact absurd rfl (hk j)
    | name => exact ⟨rfl, rfl⟩
    | numeral hn => exact absurd hn hw.not_isNumeral
  | numeral hn =>
    subst hv
    cases h' with
    | operator t => exact absurd hn t.not_isNumeral_spelling
    | reserved j => exact absurd hn j.isWord_word.not_isNumeral
    | name hw => exact absurd hn hw.not_isNumeral
    | numeral => exact ⟨rfl, rfl⟩

end MonkeyScan
