import MonkeyScan.Proofs.JsonText.Grammar

/-!
# Reading the strings of JSON

`readSpelled` takes one character of a string from the front of a text, as it stands or escaped. It
takes exactly what the grammar allows (`spelled_of_readSpelled`, `readSpelled_append`); a quote
stands for no character, so that the first one ends the string (`quoted_of_readQuoted`,
`readQuoted_append`).

A number of four digits stands for the character of that number or, if there is none, for the first
half of a pair.
-/

namespace MonkeyScan.JsonText

/-! ## The reader -/

def readUnit : List Char → Option (Nat × List Char)
  | a :: b :: c :: d :: cs =>
    match hexDigit? a, hexDigit? b, hexDigit? c, hexDigit? d with
    | some h, some i, some j, some k => some (((h * 16 + i) * 16 + j) * 16 + k, cs)
    | _, _, _, _ => none
  | _ => none

/-- Reads the second half of a surrogate pair. -/
def readLow (high : Nat) : List Char → Option (Char × List Char)
  | '\\' :: 'u' :: cs =>
    (readUnit cs).bind fun (low, cs) =>
      if high < 0xdc00 ∧ 0xdc00 ≤ low ∧ low < 0xe000 then some (Char.ofNat (ofPair high low), cs)
      else none
  | _ => none

def readSpelled : List Char → Option (Char × List Char)
  | '\\' :: 'u' :: cs =>
    (readUnit cs).bind fun (n, cs) =>
      if n.isValidChar then some (Char.ofNat n, cs) else readLow n cs
  | '\\' :: e :: cs => (letters.lookup e).map fun c => (c, cs)
  | c :: cs => if isPlain c then some (c, cs) else none
  | [] => none

/-- Reads characters up to the closing quote, in at most so many steps. -/
def readLetters : Nat → List Char → Option (List Char × List Char)
  | 0, _ => none
  | _ + 1, '"' :: cs => some ([], cs)
  | n + 1, cs =>
    (readSpelled cs).bind fun (c, cs) =>
      (readLetters n cs).map fun (k, cs) => (c :: k, cs)

def readQuoted (n : Nat) : List Char → Option (String × List Char)
  | '"' :: cs => (readLetters n cs).map fun (k, cs) => (String.ofList k, cs)
  | _ => none

/-! ## Numbers of four digits -/

variable {cs rest s : List Char}

theorem unit_of_readUnit {n : Nat} (h : readUnit cs = some (n, rest)) :
    ∃ s, Unit n s ∧ cs = s ++ rest := by
  unfold readUnit at h
  split at h
  · split at h
    · next ha hb hc hd =>
      cases h
      exact ⟨_, .mk ha hb hc hd, rfl⟩
    · cases h
  · cases h

theorem readUnit_append {n : Nat} (h : Unit n s) : readUnit (s ++ rest) = some (n, rest) := by
  cases h with
  | mk ha hb hc hd =>
    simp only [List.cons_append, List.nil_append, readUnit, ha, hb, hc, hd]

/-! ## Characters -/

theorem toNat_ofNat {n : Nat} (h : n.isValidChar) : (Char.ofNat n).toNat = n := by
  rw [Char.ofNat, dif_pos h]
  rfl

theorem isValidChar_toNat (c : Char) : c.toNat.isValidChar := c.valid

theorem isValidChar_ofPair {high low : Nat} (hhigh : high < 0xdc00) (hlow : low < 0xe000) :
    (ofPair high low).isValidChar := by
  refine Or.inr ⟨?_, ?_⟩ <;> unfold ofPair <;> omega

/-- The second half is read behind a number that is no character. -/
theorem pair_of_readLow {high : Nat} {c : Char} (hs : Unit high s) (hvalid : ¬ high.isValidChar)
    (h : readLow high cs = some (c, rest)) :
    ∃ t, Spelled c ('\\' :: 'u' :: (s ++ t)) ∧ cs = t ++ rest := by
  unfold readLow at h
  split at h
  · simp only [Option.bind_eq_some_iff, Prod.exists] at h
    obtain ⟨low, cs', hunit, h⟩ := h
    obtain ⟨t, ht, rfl⟩ := unit_of_readUnit hunit
    split at h
    · next hpair =>
      rw [Option.some.injEq, Prod.mk.injEq] at h
      have hhigh : 0xd800 ≤ high := Nat.le_of_not_lt fun hlt => hvalid (Or.inl hlt)
      have hc : c.toNat = ofPair high low := by
        rw [← h.1, toNat_ofNat (isValidChar_ofPair hpair.1 hpair.2.2)]
      exact ⟨_, .pair hs ht ⟨hhigh, hpair.1⟩ hpair.2 hc, by rw [h.2]; rfl⟩
    · cases h
  · cases h

theorem readLow_append {high low : Nat} {c : Char} (ht : Unit low s) (hhigh : high < 0xdc00)
    (hlow : 0xdc00 ≤ low ∧ low < 0xe000) (hc : c.toNat = ofPair high low) :
    readLow high ('\\' :: 'u' :: (s ++ rest)) = some (c, rest) := by
  rw [readLow, readUnit_append ht, Option.bind_some]
  simp only [if_pos (And.intro hhigh hlow), ← hc, Char.ofNat_toNat]

theorem spelled_of_readSpelled {c : Char} (h : readSpelled cs = some (c, rest)) :
    ∃ s, Spelled c s ∧ cs = s ++ rest := by
  unfold readSpelled at h
  split at h
  · simp only [Option.bind_eq_some_iff, Prod.exists] at h
    obtain ⟨n, cs₁, hunit, h⟩ := h
    obtain ⟨s, hs, rfl⟩ := unit_of_readUnit hunit
    split at h
    · next hvalid =>
      rw [Option.some.injEq, Prod.mk.injEq] at h
      have hc : c.toNat = n := by rw [← h.1, toNat_ofNat hvalid]
      exact ⟨_, .unit (hc ▸ hs), by rw [h.2]; rfl⟩
    · next hvalid =>
      obtain ⟨t, ht, rfl⟩ := pair_of_readLow hs hvalid h
      exact ⟨_, ht, by simp only [List.cons_append, List.append_assoc]⟩
  · simp only [Option.map_eq_some_iff, Prod.mk.injEq] at h
    obtain ⟨c, hletter, rfl, rfl⟩ := h
    exact ⟨_, .letter hletter, rfl⟩
  · split at h
    · next hplain =>
      cases h
      exact ⟨_, .plain hplain, rfl⟩
    · cases h
  · cases h

theorem readSpelled_append {c : Char} (h : Spelled c s) :
    readSpelled (s ++ rest) = some (c, rest) := by
  cases h with
  | plain hplain =>
    unfold readSpelled
    split
    · next hslash => cases hslash; cases hplain
    · next hslash => cases hslash; cases hplain
    · next hcons => cases hcons; exact if_pos hplain
    · next hnil => cases hnil
  | @letter e _ hletter =>
    have hne : e ≠ 'u' := by
      rintro rfl
      cases hletter
    unfold readSpelled
    split
    · next hslash =>
      cases hslash
      exact absurd rfl hne
    · next hslash =>
      cases hslash
      rw [hletter]
      rfl
    · next hother hcons =>
      cases hcons
      exact absurd rfl (hother e rest rfl)
    · next hnil => cases hnil
  | unit hs =>
    rw [List.cons_append, List.cons_append, readSpelled, readUnit_append hs]
    simp only [Option.bind_some, if_pos (isValidChar_toNat c), Char.ofNat_toNat]
  | @pair _ s t high low hs ht hhigh hlow hc =>
    have hvalid : ¬ high.isValidChar := by
      rintro (h | h) <;> omega
    rw [List.cons_append, List.cons_append, List.append_assoc, readSpelled, readUnit_append hs]
    simp only [Option.bind_some, if_neg hvalid]
    exact readLow_append ht hhigh.2 hlow hc

/-! ## Strings -/

/-- What is written for a character does not begin with a quote. -/
theorem Spelled.exists_cons {c : Char} (h : Spelled c s) : ∃ d t, s = d :: t ∧ d ≠ '"' := by
  cases h with
  | plain hplain =>
    refine ⟨c, [], rfl, ?_⟩
    rintro rfl
    cases hplain
  | letter | unit | pair => exact ⟨'\\', _, rfl, by decide⟩

theorem letters_of_readLetters {n : Nat} {k : List Char} (h : readLetters n cs = some (k, rest)) :
    ∃ s, Letters k s ∧ cs = s ++ '"' :: rest := by
  induction n generalizing cs k with
  | zero => cases h
  | succ n ih =>
    unfold readLetters at h
    split at h
    · cases h
    · cases h
      exact ⟨[], .nil, rfl⟩
    · next hn _ =>
      cases hn
      simp only [Option.bind_eq_some_iff, Option.map_eq_some_iff, Prod.exists, Prod.mk.injEq] at h
      obtain ⟨c, cs₁, hc, k, cs₂, hk, rfl, rfl⟩ := h
      obtain ⟨s, hs, rfl⟩ := spelled_of_readSpelled hc
      obtain ⟨t, ht, rfl⟩ := ih hk
      exact ⟨_, .cons hs ht, (List.append_assoc _ _ _).symm⟩

theorem readLetters_append {n : Nat} {k : List Char} (h : Letters k s) (hn : s.length < n) :
    readLetters n (s ++ '"' :: rest) = some (k, rest) := by
  induction h generalizing n with
  | nil =>
    cases n with
    | zero => cases hn
    | succ n => rfl
  | @cons c cs s t hc hcs ih =>
    have hread : readSpelled (s ++ (t ++ '"' :: rest)) = some (c, t ++ '"' :: rest) :=
      readSpelled_append hc
    obtain ⟨d, s, rfl, hd⟩ := hc.exists_cons
    cases n with
    | zero => cases hn
    | succ n =>
      have ht : t.length < n := by
        simp only [List.cons_append, List.length_cons, List.length_append] at hn
        omega
      rw [List.append_assoc]
      unfold readLetters
      split
      · next hn => cases hn
      · next hquote =>
        cases hquote
        exact absurd rfl hd
      · next hn _ =>
        cases hn
        simp only [hread, Option.bind_some, ih ht, Option.map_some]

theorem quoted_of_readQuoted {n : Nat} {k : String} (h : readQuoted n cs = some (k, rest)) :
    ∃ s, Quoted k s ∧ cs = s ++ rest := by
  unfold readQuoted at h
  split at h
  · simp only [Option.map_eq_some_iff, Prod.exists, Prod.mk.injEq] at h
    obtain ⟨k, cs, hread, rfl, rfl⟩ := h
    obtain ⟨s, hs, rfl⟩ := letters_of_readLetters hread
    rw [← String.toList_ofList (l := k)] at hs
    exact ⟨_, .mk hs, by simp⟩
  · cases h

theorem readQuoted_append {n : Nat} {k : String} (h : Quoted k s) (hn : s.length ≤ n) :
    readQuoted n (s ++ rest) = some (k, rest) := by
  cases h with
  | @mk s h =>
    have hs : s.length < n := by
      simp only [List.length_cons, List.length_append] at hn
      omega
    rw [List.cons_append, List.append_assoc, List.singleton_append, readQuoted,
      readLetters_append h hs]
    simp

end MonkeyScan.JsonText
