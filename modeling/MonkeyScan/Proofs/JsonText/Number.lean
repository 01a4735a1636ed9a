import MonkeyScan.Proofs.JsonText.Grammar
import MonkeyScan.Proofs.Text.ReadBack

/-!
# Reading the numbers of JSON

`readNumber` takes a number from the front of a text. What it takes is a number
(`number_of_readNumber`), and it takes a number whole where no character follows that could carry it
on (`readNumber_append`). Both are shown part by part, for digits, fractions and powers of ten.
-/

namespace MonkeyScan.JsonText

/-! ## The reader -/

def readDigits (cs : List Char) : Option (List Char × List Char) :=
  match cs.span Char.isDigit with
  | ([], _) => none
  | (d :: ds, rest) => some (d :: ds, rest)

def readFraction : List Char → Option (List Char × List Char)
  | '.' :: cs => readDigits cs
  | cs => some ([], cs)

def readSigned : List Char → Option (Int × List Char)
  | '+' :: cs => (readDigits cs).map fun (ds, rest) => (Nat.ofDigitChars 10 ds 0, rest)
  | '-' :: cs => (readDigits cs).map fun (ds, rest) => (-Nat.ofDigitChars 10 ds 0, rest)
  | cs => (readDigits cs).map fun (ds, rest) => (Nat.ofDigitChars 10 ds 0, rest)

def readExponent : List Char → Option (Int × List Char)
  | [] => some (0, [])
  | c :: cs => if c = 'e' ∨ c = 'E' then readSigned cs else some (0, c :: cs)

def readMagnitude (cs : List Char) : Option ((Nat × Int) × List Char) :=
  (readDigits cs).bind fun (ds, cs) =>
    if ds.head? = some '0' ∧ ds ≠ ['0'] then none
    else (readFraction cs).bind fun (fs, cs) =>
      (readExponent cs).map fun (e, cs) =>
        ((Nat.ofDigitChars 10 (ds ++ fs) 0, e - fs.length), cs)

def readNumber : List Char → Option ((Int × Int) × List Char)
  | '-' :: cs => (readMagnitude cs).map fun ((m, e), cs) => ((-m, e), cs)
  | cs => (readMagnitude cs).map fun ((m, e), cs) => ((m, e), cs)

/-! ## What is read -/

variable {cs rest s : List Char}

theorem digits_of_readDigits {ds : List Char} (h : readDigits cs = some (ds, rest)) :
    Digits ds ∧ cs = ds ++ rest := by
  rw [readDigits, List.span_eq_takeWhile_dropWhile] at h
  split at h
  · cases h
  · next d ds' rest' hspan =>
    cases h
    rw [Prod.mk.injEq] at hspan
    refine ⟨⟨List.cons_ne_nil _ _, ?_⟩, ?_⟩
    · intro c hc
      rw [← hspan.1] at hc
      exact List.mem_takeWhile_imp hc
    · rw [← hspan.1, ← hspan.2, List.takeWhile_append_dropWhile]

theorem fraction_of_readFraction {fs : List Char} (h : readFraction cs = some (fs, rest)) :
    ∃ s, Fraction fs s ∧ cs = s ++ rest := by
  unfold readFraction at h
  split at h
  · obtain ⟨hds, rfl⟩ := digits_of_readDigits h
    exact ⟨_, .point hds, rfl⟩
  · cases h
    exact ⟨[], .absent, rfl⟩

theorem signed_of_readSigned {e : Int} (h : readSigned cs = some (e, rest)) :
    ∃ s, Signed e s ∧ cs = s ++ rest := by
  unfold readSigned at h
  split at h <;> simp only [Option.map_eq_some_iff, Prod.exists, Prod.mk.injEq] at h <;>
    obtain ⟨ds, rest', hread, rfl, rfl⟩ := h <;> obtain ⟨hds, rfl⟩ := digits_of_readDigits hread
  · exact ⟨_, .plus hds, rfl⟩
  · exact ⟨_, .minus hds, rfl⟩
  · exact ⟨_, .plain hds, rfl⟩

theorem exponent_of_readExponent {e : Int} (h : readExponent cs = some (e, rest)) :
    ∃ s, Exponent e s ∧ cs = s ++ rest := by
  unfold readExponent at h
  split at h
  · cases h
    exact ⟨[], .absent, rfl⟩
  · split at h
    · next hc =>
      obtain ⟨s, hs, rfl⟩ := signed_of_readSigned h
      exact ⟨_, .mark hc hs, rfl⟩
    · cases h
      exact ⟨[], .absent, rfl⟩

theorem magnitude_of_readMagnitude {m : Nat} {e : Int}
    (h : readMagnitude cs = some ((m, e), rest)) : ∃ s, Magnitude m e s ∧ cs = s ++ rest := by
  simp only [readMagnitude, Option.bind_eq_some_iff, Prod.exists] at h
  obtain ⟨ds, cs₁, hdigits, h⟩ := h
  split at h
  · cases h
  · next hzero =>
    simp only [Option.bind_eq_some_iff, Option.map_eq_some_iff, Prod.exists, Prod.mk.injEq] at h
    obtain ⟨fs, cs₂, hfraction, x, cs₃, hexponent, ⟨rfl, rfl⟩, rfl⟩ := h
    obtain ⟨hds, rfl⟩ := digits_of_readDigits hdigits
    obtain ⟨f, hf, rfl⟩ := fraction_of_readFraction hfraction
    obtain ⟨t, ht, rfl⟩ := exponent_of_readExponent hexponent
    refine ⟨_, .mk hds (fun h0 => by_contra fun hne => hzero ⟨h0, hne⟩) hf ht, ?_⟩
    simp only [List.append_assoc]

theorem number_of_readNumber {m e : Int} (h : readNumber cs = some ((m, e), rest)) :
    ∃ s, Number m e s ∧ cs = s ++ rest := by
  unfold readNumber at h
  split at h <;> simp only [Option.map_eq_some_iff, Prod.exists, Prod.mk.injEq] at h <;>
    obtain ⟨m', e', rest', hread, ⟨rfl, rfl⟩, rfl⟩ := h <;>
    obtain ⟨s, hs, rfl⟩ := magnitude_of_readMagnitude hread
  · exact ⟨_, .minus hs, rfl⟩
  · exact ⟨_, .plain hs, rfl⟩

/-! ## What is written -/

/-- No character follows that could be a part of a number. -/
def Stops (rest : List Char) : Prop :=
  ∀ c ∈ rest.head?, c.isDigit = false ∧ c ≠ '.' ∧ c ≠ 'e' ∧ c ≠ 'E'

theorem readDigits_append {ds : List Char} (hds : Digits ds)
    (hrest : ∀ c ∈ rest.head?, c.isDigit = false) : readDigits (ds ++ rest) = some (ds, rest) := by
  obtain ⟨hne, hall⟩ := hds
  rw [readDigits, Text.span_append hall hrest]
  cases ds with
  | nil => exact absurd rfl hne
  | cons d ds => rfl

theorem Digits.exists_cons {ds : List Char} (h : Digits ds) :
    ∃ d ds', ds = d :: ds' ∧ d.isDigit = true := by
  obtain ⟨hne, hall⟩ := h
  cases ds with
  | nil => exact absurd rfl hne
  | cons d ds => exact ⟨d, ds, rfl, hall d List.mem_cons_self⟩

theorem readSigned_append {e : Int} (h : Signed e s)
    (hrest : ∀ c ∈ rest.head?, c.isDigit = false) : readSigned (s ++ rest) = some (e, rest) := by
  cases h with
  | plus hds => rw [List.cons_append, readSigned, readDigits_append hds hrest]; rfl
  | minus hds => rw [List.cons_append, readSigned, readDigits_append hds hrest]; rfl
  | plain hds =>
    have hread := readDigits_append hds hrest
    obtain ⟨d, ds, rfl, hd⟩ := hds.exists_cons
    unfold readSigned
    split
    · next hsign => cases hsign; cases hd
    · next hsign => cases hsign; cases hd
    · rw [hread]; rfl

theorem readFraction_append {fs : List Char} (h : Fraction fs s)
    (hrest : ∀ c ∈ rest.head?, c.isDigit = false ∧ c ≠ '.') :
    readFraction (s ++ rest) = some (fs, rest) := by
  cases h with
  | absent =>
    unfold readFraction
    split
    · next cs hpoint =>
      have hmem : '.' ∈ rest.head? := congrArg List.head? hpoint
      exact absurd rfl (hrest '.' hmem).2
    · rfl
  | point hds => exact readDigits_append hds fun c hc => (hrest c hc).1

theorem readExponent_append {e : Int} (h : Exponent e s) (hrest : Stops rest) :
    readExponent (s ++ rest) = some (e, rest) := by
  cases h with
  | absent =>
    cases rest with
    | nil => rfl
    | cons c rest =>
      obtain ⟨-, -, hsmall, hcapital⟩ := hrest c rfl
      rw [List.nil_append, readExponent, if_neg (not_or.2 ⟨hsmall, hcapital⟩)]
  | mark hc hs =>
    rw [List.cons_append, readExponent, if_pos hc]
    exact readSigned_append hs fun c hc => (hrest c hc).1

/-- A power of ten ends the digits in front of it. -/
theorem Exponent.stops {e : Int} (h : Exponent e s) (hrest : Stops rest) :
    ∀ c ∈ (s ++ rest).head?, c.isDigit = false ∧ c ≠ '.' := by
  cases h with
  | absent => exact fun c hc => ⟨(hrest c hc).1, (hrest c hc).2.1⟩
  | mark hc hs => rcases hc with rfl | rfl <;> simp

/-- A fraction ends the digits in front of it. -/
theorem Fraction.stops {fs : List Char} (h : Fraction fs s)
    (hrest : ∀ c ∈ rest.head?, c.isDigit = false) :
    ∀ c ∈ (s ++ rest).head?, c.isDigit = false := by
  cases h with
  | absent => exact hrest
  | point hds => simp

theorem readMagnitude_append {m : Nat} {e : Int} (h : Magnitude m e s) (hrest : Stops rest) :
    readMagnitude (s ++ rest) = some ((m, e), rest) := by
  cases h with
  | @mk ds fs f x t hds hzero hf hx =>
    have hexponent := hx.stops hrest
    have hfraction := hf.stops fun c hc => (hexponent c hc).1
    have hleading : ¬ (ds.head? = some '0' ∧ ds ≠ ['0']) := fun h => h.2 (hzero h.1)
    rw [readMagnitude, List.append_assoc, List.append_assoc, readDigits_append hds hfraction]
    simp only [Option.bind_some, if_neg hleading, readFraction_append hf hexponent,
      readExponent_append hx hrest]
    rfl

theorem Magnitude.exists_cons {m : Nat} {e : Int} (h : Magnitude m e s) :
    ∃ d s', s = d :: s' ∧ d.isDigit = true := by
  cases h with
  | mk hds =>
    obtain ⟨d, ds, rfl, hd⟩ := hds.exists_cons
    exact ⟨d, _, rfl, hd⟩

theorem readNumber_append {m e : Int} (h : Number m e s) (hrest : Stops rest) :
    readNumber (s ++ rest) = some ((m, e), rest) := by
  cases h with
  | minus h => rw [List.cons_append, readNumber, readMagnitude_append h hrest]; rfl
  | plain h =>
    have hread := readMagnitude_append h hrest
    obtain ⟨d, s, rfl, hd⟩ := h.exists_cons
    unfold readNumber
    split
    · next hsign => cases hsign; cases hd
    · rw [hread]; rfl

/-- A number begins with a digit or a minus sign. -/
theorem Number.exists_cons {m e : Int} (h : Number m e s) :
    ∃ d s', s = d :: s' ∧ (d.isDigit = true ∨ d = '-') := by
  cases h with
  | minus h => exact ⟨'-', _, rfl, Or.inr rfl⟩
  | plain h =>
    obtain ⟨d, s, rfl, hd⟩ := h.exists_cons
    exact ⟨d, s, rfl, Or.inl hd⟩

end MonkeyScan.JsonText
