import Mathlib.Data.List.TakeWhile
import MonkeyScan.Token.Lexeme

/-!
# What a lexeme keeps of its text

`Front` lists the five things that the lexeme at the front of a text can be, each with the
condition under which it is taken; all that is said of lexemes is said by cases on it.

A scanner takes a symbol by looking at one or two characters, with a length of one or two, and
knows of no spelling. `first_of_atFront?` says that this is the longest symbol that the text begins
with, its characters are those of its spelling, and so is its length.

A token keeps a literal only where its kind has no spelling, and its length is noted apart from
both. Main statements: the spelling of a token is the text of its lexeme (`Front.spelling_token`),
the length is the number of its characters (`Front.length_eq`), and no lexeme holds a blank
(`Front.isBlank_eq_false`).
-/

namespace MonkeyScan

/-! ## Characters -/

theorem utf8Size_of_isLetter {c : Char} (h : isLetter c = true) : c.utf8Size = 1 := by
  rw [Char.utf8Size_eq_one_iff]
  simp only [isLetter, Bool.or_eq_true, Bool.and_eq_true, decide_eq_true_eq, beq_iff_eq,
    Char.le_def] at h
  rcases h with (⟨-, h⟩ | ⟨-, h⟩) | rfl
  · exact UInt32.le_trans h (by decide)
  · exact UInt32.le_trans h (by decide)
  · decide

theorem utf8Size_of_isDigit {c : Char} (h : isDigit c = true) : c.utf8Size = 1 := by
  rw [Char.utf8Size_eq_one_iff]
  simp only [isDigit, Bool.and_eq_true, decide_eq_true_eq, Char.le_def] at h
  exact UInt32.le_trans h.2 (by decide)

/-- A text of characters of one byte each has as many bytes as characters. -/
theorem Utf8.size_eq_length {cs : List Char} (h : ∀ c ∈ cs, c.utf8Size = 1) :
    Utf8.size cs = cs.length := by
  induction cs with
  | nil => rfl
  | cons c cs ih =>
    rw [Utf8.size_cons, h c List.mem_cons_self, ih fun d hd => h d (List.mem_cons_of_mem c hd),
      List.length_cons, Nat.add_comm]

/-- A run that begins with a character of its class holds no other characters. -/
theorem of_mem_cons_takeWhile {p : Char → Bool} {c d : Char} {cs : List Char} (hc : p c = true)
    (hd : d ∈ c :: cs.takeWhile p) : p d = true := by
  rcases List.mem_cons.1 hd with rfl | hd
  · exact hc
  · exact List.mem_takeWhile_imp hd

theorem not_mem_ofList {p : Char → Bool} {c d : Char} {cs : List Char} (hc : p c = true)
    (hd : p d = false) : d ∉ (String.ofList (c :: cs.takeWhile p)).toList := by
  rw [String.toList_ofList]
  intro hmem
  rw [of_mem_cons_takeWhile hc hmem] at hd
  cases hd

theorem isLetter_eq_false_of_isDigit {c : Char} (h : isDigit c = true) : isLetter c = false := by
  cases hl : isLetter c with
  | false => rfl
  | true => rw [isDigit_eq_false_of_isLetter hl] at h; cases h

theorem isBlank_eq_false_of_isLetter {c : Char} (h : isLetter c = true) : isBlank c = false := by
  cases hb : isBlank c with
  | false => rfl
  | true => rw [isLetter_eq_false_of_isBlank hb] at h; cases h

theorem isBlank_eq_false_of_isDigit {c : Char} (h : isDigit c = true) : isBlank c = false := by
  cases hb : isBlank c with
  | false => rfl
  | true => rw [isDigit_eq_false_of_isBlank hb] at h; cases h

theorem Symbol.isBlank_of_mem_spelling {s : Symbol} {d : Char} (h : d ∈ s.spelling.toList) :
    isBlank d = false := by
  have hall : (s.spelling.toList.all fun d => !isBlank d) = true := by cases s <;> rfl
  simpa using List.all_eq_true.1 hall d h

theorem Symbol.isLetter_isDigit_of_mem_spelling {s : Symbol} {d : Char}
    (h : d ∈ s.spelling.toList) : isLetter d = false ∧ isDigit d = false := by
  have hall : (s.spelling.toList.all fun d => !isLetter d && !isDigit d) = true := by
    cases s <;> rfl
  simpa using List.all_eq_true.1 hall d h

/-- Letters and digits are no symbols. -/
theorem Symbol.ofChar?_eq_none {c : Char} (h : isLetter c = true ∨ isDigit c = true) :
    ofChar? c = none := by
  cases hs : ofChar? c with
  | none => rfl
  | some s =>
    have hmem : c ∈ s.spelling.toList := by simp [spelling_ofChar? hs]
    simp [isLetter_isDigit_of_mem_spelling hmem] at h

/-- The names of kinds are words. -/
theorem Kind.isLetter_of_mem_name (k : Kind) {d : Char} (h : d ∈ k.name.toList) :
    isLetter d = true := by
  have hnames : (Kind.all.all fun k => k.name.toList.all isLetter) = true := by decide +kernel
  exact List.all_eq_true.1 (List.all_eq_true.1 hnames k (Kind.mem_all k)) d h

/-! ## Symbols at the front -/

namespace Symbol

/-- The longest symbol that `c :: cs` begins with. -/
def atFront? (c : Char) (cs : List Char) : Option Symbol :=
  if c = '=' ∧ cs.head? = some '=' then some eq
  else if c = '!' ∧ cs.head? = some '=' then some notEq
  else ofChar? c

theorem ofChar?_of_atFront?_eq_none {c : Char} {cs : List Char} (h : atFront? c cs = none) :
    ofChar? c = none := by
  unfold atFront? at h
  split at h
  · cases h
  · split at h
    · cases h
    · exact h

end Symbol

namespace Lexeme

/-! ## The front of a text -/

theorem first_of_isLetter {c : Char} (h : isLetter c = true) (cs : List Char) :
    first c cs = ⟨.ofWord (String.ofList (c :: cs.takeWhile isLetter)), c :: cs.takeWhile isLetter,
      Utf8.size (c :: cs.takeWhile isLetter)⟩ := by
  simp [first, Symbol.ofChar?_eq_none (.inl h), h]

theorem first_of_isDigit {c : Char} (h : isDigit c = true) (cs : List Char) :
    first c cs = ⟨.int, c :: cs.takeWhile isDigit, Utf8.size (c :: cs.takeWhile isDigit)⟩ := by
  simp [first, Symbol.ofChar?_eq_none (.inr h), isLetter_eq_false_of_isDigit h, h]

/-- Where a text begins with a symbol, what is taken and noted is the spelling and its length. -/
theorem first_of_atFront? {c : Char} {cs : List Char} {s : Symbol}
    (h : Symbol.atFront? c cs = some s) :
    first c cs = ⟨.symbol s, s.spelling.toList, s.spelling.length⟩ := by
  unfold Symbol.atFront? at h
  split at h
  case isTrue hequal =>
    cases h
    obtain ⟨rfl, hcs⟩ := hequal
    simp only [first, Symbol.ofChar?, hcs, if_true]
    rfl
  case isFalse hequal =>
  split at h
  case isTrue hnotEqual =>
    cases h
    obtain ⟨rfl, hcs⟩ := hnotEqual
    simp only [first, Symbol.ofChar?, hcs, if_true]
    rfl
  -- One character is taken: for an equals sign or an exclamation mark because none follows.
  case isFalse hnotEqual =>
    have hchars := Symbol.spelling_ofChar? h
    have hlength : s.spelling.length = 1 := by rw [← String.length_toList, hchars]; rfl
    rw [hchars, hlength, first, h]
    split
    · next hs =>
      cases hs
      have hc : c = '!' := by simpa [Symbol.spelling, eq_comm] using hchars
      rw [if_neg fun hcs => hnotEqual ⟨hc, hcs⟩]
    · next hs =>
      cases hs
      have hc : c = '=' := by simpa [Symbol.spelling, eq_comm] using hchars
      rw [if_neg fun hcs => hequal ⟨hc, hcs⟩]
    · next hs => cases hs; rfl
    · next hs => cases hs

theorem spelling_of_atFront? {c : Char} {cs : List Char} {s : Symbol}
    (h : Symbol.atFront? c cs = some s) :
    ∃ tail, s.spelling.toList = c :: tail ∧ tail <+: cs := by
  have hchars := first_chars c cs
  rwa [first_of_atFront? h] at hchars

theorem first_of_atFront?_eq_none {c : Char} {cs : List Char} (hl : isLetter c = false)
    (hn : isDigit c = false) (hs : Symbol.atFront? c cs = none) :
    first c cs = ⟨.illegal, [c], 1⟩ := by
  simp [first, Symbol.ofChar?_of_atFront?_eq_none hs, hl, hn]

/-- What the lexeme at the front of `c :: cs` can be. -/
inductive Front (c : Char) (cs : List Char) : Lexeme → Prop
  | keyword (k : Keyword) : isLetter c = true → k.word.toList = c :: cs.takeWhile isLetter →
      Front c cs ⟨.keyword k, c :: cs.takeWhile isLetter, Utf8.size (c :: cs.takeWhile isLetter)⟩
  | ident : isLetter c = true → (∀ k : Keyword, k.word.toList ≠ c :: cs.takeWhile isLetter) →
      Front c cs ⟨.ident, c :: cs.takeWhile isLetter, Utf8.size (c :: cs.takeWhile isLetter)⟩
  | int : isLetter c = false → isDigit c = true →
      Front c cs ⟨.int, c :: cs.takeWhile isDigit, Utf8.size (c :: cs.takeWhile isDigit)⟩
  | symbol (s : Symbol) : isLetter c = false → isDigit c = false →
      Symbol.atFront? c cs = some s →
      Front c cs ⟨.symbol s, s.spelling.toList, s.spelling.length⟩
  | illegal : isLetter c = false → isDigit c = false → Symbol.atFront? c cs = none →
      Front c cs ⟨.illegal, [c], 1⟩

theorem front_first (c : Char) (cs : List Char) : Front c cs (first c cs) := by
  cases hl : isLetter c with
  | true =>
    rw [first_of_isLetter hl, Kind.ofWord]
    cases hk : Keyword.ofWord? (String.ofList (c :: cs.takeWhile isLetter)) with
    | some k =>
      refine .keyword k hl ?_
      rw [Keyword.ofWord?_eq_some_iff.1 hk, String.toList_ofList]
    | none =>
      refine .ident hl fun k hw => ?_
      rw [← hw, String.ofList_toList, Keyword.ofWord?_word] at hk
      cases hk
  | false =>
    cases hd : isDigit c with
    | true =>
      rw [first_of_isDigit hd]
      exact .int hl hd
    | false =>
      cases hs : Symbol.atFront? c cs with
      | some s =>
        rw [first_of_atFront? hs]
        exact .symbol s hl hd hs
      | none =>
        rw [first_of_atFront?_eq_none hl hd hs]
        exact .illegal hl hd hs

theorem first_append_drop (c : Char) (cs : List Char) :
    (first c cs).chars ++ (c :: cs).drop (first c cs).chars.length = c :: cs := by
  obtain ⟨tail, h⟩ := first_chars_prefix c cs
  rw [← h, List.drop_left]

namespace Front

variable {c : Char} {cs : List Char} {l : Lexeme}

/-- The length that is noted is the number of characters read, although words and integers are
measured in bytes. -/
theorem length_eq (h : Front c cs l) : l.length = l.chars.length := by
  cases h with
  | keyword k hl _ =>
    exact Utf8.size_eq_length fun d hd => utf8Size_of_isLetter (of_mem_cons_takeWhile hl hd)
  | ident hl _ =>
    exact Utf8.size_eq_length fun d hd => utf8Size_of_isLetter (of_mem_cons_takeWhile hl hd)
  | int _ hd =>
    exact Utf8.size_eq_length fun d hd' => utf8Size_of_isDigit (of_mem_cons_takeWhile hd hd')
  | symbol s => exact String.length_toList.symm
  | illegal => rfl

/-- The text that a token stands for is the text of its lexeme, whether it is kept as a literal or
looked up by the kind. -/
theorem spelling_token (h : Front c cs l) (p : Position) :
    (l.token p).spelling.toList = l.chars := by
  cases h with
  | keyword k _ hk => exact hk
  | ident | int | illegal => exact String.toList_ofList
  | symbol s => rfl

theorem isBlank_eq_false (h : Front c cs l) (hc : isBlank c = false) {d : Char}
    (hd : d ∈ l.chars) : isBlank d = false := by
  cases h with
  | keyword k hl _ => exact isBlank_eq_false_of_isLetter (of_mem_cons_takeWhile hl hd)
  | ident hl _ => exact isBlank_eq_false_of_isLetter (of_mem_cons_takeWhile hl hd)
  | int _ hn => exact isBlank_eq_false_of_isDigit (of_mem_cons_takeWhile hn hd)
  | symbol s => exact Symbol.isBlank_of_mem_spelling hd
  | illegal => rw [List.mem_singleton.1 hd]; exact hc

/-- The characters of a lexeme are all letters or all none. -/
theorem isLetter_eq (h : Front c cs l) {d : Char} (hd : d ∈ l.chars) :
    isLetter d = isLetter c := by
  cases h with
  | keyword k hl _ => rw [of_mem_cons_takeWhile hl hd, hl]
  | ident hl _ => rw [of_mem_cons_takeWhile hl hd, hl]
  | int hl hn => rw [isLetter_eq_false_of_isDigit (of_mem_cons_takeWhile hn hd), hl]
  | symbol s hl _ _ => rw [(Symbol.isLetter_isDigit_of_mem_spelling hd).1, hl]
  | illegal => rw [List.mem_singleton.1 hd]

/-- The characters of a lexeme are all digits or all none. -/
theorem isDigit_eq (h : Front c cs l) {d : Char} (hd : d ∈ l.chars) : isDigit d = isDigit c := by
  cases h with
  | keyword k hl _ =>
    rw [isDigit_eq_false_of_isLetter hl,
      isDigit_eq_false_of_isLetter (of_mem_cons_takeWhile hl hd)]
  | ident hl _ =>
    rw [isDigit_eq_false_of_isLetter hl,
      isDigit_eq_false_of_isLetter (of_mem_cons_takeWhile hl hd)]
  | int _ hn => rw [of_mem_cons_takeWhile hn hd, hn]
  | symbol s _ hn _ => rw [(Symbol.isLetter_isDigit_of_mem_spelling hd).2, hn]
  | illegal => rw [List.mem_singleton.1 hd]

end Front

end Lexeme

end MonkeyScan
