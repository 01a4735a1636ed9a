import MonkeyScan.Proofs.JsonText.Number
import MonkeyScan.Proofs.JsonText.Quoted

/-!
# Reading JSON

**Theorem (`read_eq_some_iff`).** `read` reads the documents of the grammar, each as the value that
it is for, and no other text.

A reader for each kind of phrase takes it from the front of a text. Whatever it takes is such a
phrase (`sound`). Conversely every phrase is taken whole (`complete`): a bracket or a quote ends it,
or it is a number, and what can follow a value carries no number on. The readers call each other in
at most so many steps as the text has characters, for each of them takes one at least before it
calls another.
-/

namespace MonkeyScan.JsonText

/-! ## The reader -/

def skipSpaces (cs : List Char) : List Char := cs.dropWhile isSpace

def readAtom : List Char → Option (Value × List Char)
  | 'n' :: 'u' :: 'l' :: 'l' :: cs => some (.null, cs)
  | 't' :: 'r' :: 'u' :: 'e' :: cs => some (.bool true, cs)
  | 'f' :: 'a' :: 'l' :: 's' :: 'e' :: cs => some (.bool false, cs)
  | cs => (readNumber cs).map fun ((m, e), cs) => (.number m e, cs)

mutual

def readValue : Nat → List Char → Option (Value × List Char)
  | 0, _ => none
  | n + 1, '"' :: cs => (readQuoted (n + 1) ('"' :: cs)).map fun (k, cs) => (.string k, cs)
  | n + 1, '[' :: cs =>
    match skipSpaces cs with
    | ']' :: cs => some (.array [], cs)
    | cs =>
      (readValue n cs).bind fun (v, cs) =>
        (readItems n cs).map fun (vs, cs) => (.array (v :: vs), cs)
  | n + 1, '\x7b' :: cs =>
    match skipSpaces cs with
    | '\x7d' :: cs => some (.object [], cs)
    | cs =>
      (readField n cs).bind fun (f, cs) =>
        (readFields n cs).map fun (fs, cs) => (.object (f :: fs), cs)
  | _ + 1, cs => readAtom cs

/-- Reads what follows the first item of an array, with the closing bracket. -/
def readItems : Nat → List Char → Option (List Value × List Char)
  | 0, _ => none
  | n + 1, cs =>
    match skipSpaces cs with
    | ']' :: cs => some ([], cs)
    | ',' :: cs =>
      (readValue n (skipSpaces cs)).bind fun (v, cs) =>
        (readItems n cs).map fun (vs, cs) => (v :: vs, cs)
    | _ => none

def readField : Nat → List Char → Option ((String × Value) × List Char)
  | 0, _ => none
  | n + 1, cs =>
    (readQuoted n cs).bind fun (k, cs) =>
      match skipSpaces cs with
      | ':' :: cs => (readValue n (skipSpaces cs)).map fun (v, cs) => ((k, v), cs)
      | _ => none

/-- Reads what follows the first field of an object, with the closing bracket. -/
def readFields : Nat → List Char → Option (List (String × Value) × List Char)
  | 0, _ => none
  | n + 1, cs =>
    match skipSpaces cs with
    | '\x7d' :: cs => some ([], cs)
    | ',' :: cs =>
      (readField n (skipSpaces cs)).bind fun (f, cs) =>
        (readFields n cs).map fun (fs, cs) => (f :: fs, cs)
    | _ => none

end

/-- Reads a document. -/
def read (cs : List Char) : Option Value :=
  (readValue cs.length (skipSpaces cs)).bind fun (v, rest) =>
    if skipSpaces rest = [] then some v else none

/-- The phrase is read from the front of a text, in at most so many steps, and leaves the rest. -/
def Phrase.Reads (n : Nat) (cs rest : List Char) : Phrase → Prop
  | value v => readValue n cs = some (v, rest)
  | items vs => readItems n cs = some (vs, rest)
  | field f => readField n cs = some (f, rest)
  | fields fs => readFields n cs = some (fs, rest)

/-! ## What is read -/

variable {cs rest s t w w' : List Char}

theorem exists_spaces (cs : List Char) : ∃ w, Spaces w ∧ cs = w ++ skipSpaces cs :=
  ⟨cs.takeWhile isSpace, fun _ hc => List.mem_takeWhile_imp hc,
    List.takeWhile_append_dropWhile.symm⟩

theorem spells_of_readAtom {v : Value} (h : readAtom cs = some (v, rest)) :
    ∃ s, Spells (.value v) s ∧ cs = s ++ rest := by
  unfold readAtom at h
  split at h
  · cases h
    exact ⟨_, .nullName, rfl⟩
  · cases h
    exact ⟨_, .trueName, rfl⟩
  · cases h
    exact ⟨_, .falseName, rfl⟩
  · simp only [Option.map_eq_some_iff, Prod.exists, Prod.mk.injEq] at h
    obtain ⟨m, e, rest, hread, rfl, rfl⟩ := h
    obtain ⟨s, hs, rfl⟩ := number_of_readNumber hread
    exact ⟨s, .number hs, rfl⟩

/-- In so many steps the readers take only phrases of the grammar. -/
def Sound (n : Nat) : Prop :=
  ∀ p cs rest, Phrase.Reads n cs rest p → ∃ s, Spells p s ∧ cs = s ++ rest

section Sound

variable {n : Nat} (ih : Sound n)
include ih

theorem spells_of_readItems {vs : List Value} (h : readItems (n + 1) cs = some (vs, rest)) :
    ∃ s, Spells (.items vs) s ∧ cs = s ++ rest := by
  obtain ⟨w, hw, hcs⟩ := exists_spaces cs
  unfold readItems at h
  split at h
  · next hend =>
    cases h
    rw [hend] at hcs
    exact ⟨_, .lastItem hw, by simpa using hcs⟩
  · next cs₁ hmore =>
    simp only [Option.bind_eq_some_iff, Option.map_eq_some_iff, Prod.exists, Prod.mk.injEq] at h
    obtain ⟨v, cs₂, hv, vs, cs₃, hvs, rfl, rfl⟩ := h
    obtain ⟨w', hw', hcs₁⟩ := exists_spaces cs₁
    obtain ⟨s, hs, hcs₂⟩ := ih (.value v) _ _ hv
    obtain ⟨t, ht, rfl⟩ := ih (.items vs) _ _ hvs
    rw [hmore, hcs₁, hcs₂] at hcs
    exact ⟨_, .moreItems hw hw' hs ht, by simpa using hcs⟩
  · cases h

theorem spells_of_readFields {fs : List (String × Value)}
    (h : readFields (n + 1) cs = some (fs, rest)) :
    ∃ s, Spells (.fields fs) s ∧ cs = s ++ rest := by
  obtain ⟨w, hw, hcs⟩ := exists_spaces cs
  unfold readFields at h
  split at h
  · next hend =>
    cases h
    rw [hend] at hcs
    exact ⟨_, .lastField hw, by simpa using hcs⟩
  · next cs₁ hmore =>
    simp only [Option.bind_eq_some_iff, Option.map_eq_some_iff, Prod.exists, Prod.mk.injEq] at h
    obtain ⟨k, v, cs₂, hf, fs, cs₃, hfs, rfl, rfl⟩ := h
    obtain ⟨w', hw', hcs₁⟩ := exists_spaces cs₁
    obtain ⟨s, hs, hcs₂⟩ := ih (.field (k, v)) _ _ hf
    obtain ⟨t, ht, rfl⟩ := ih (.fields fs) _ _ hfs
    rw [hmore, hcs₁, hcs₂] at hcs
    exact ⟨_, .moreFields hw hw' hs ht, by simpa using hcs⟩
  · cases h

theorem spells_of_readField {f : String × Value} (h : readField (n + 1) cs = some (f, rest)) :
    ∃ s, Spells (.field f) s ∧ cs = s ++ rest := by
  simp only [readField, Option.bind_eq_some_iff, Prod.exists] at h
  obtain ⟨k, cs₁, hk, h⟩ := h
  obtain ⟨s, hs, rfl⟩ := quoted_of_readQuoted hk
  obtain ⟨w, hw, hcs₁⟩ := exists_spaces cs₁
  split at h
  · next cs₂ hcolon =>
    simp only [Option.map_eq_some_iff, Prod.exists, Prod.mk.injEq] at h
    obtain ⟨v, cs₃, hv, rfl, rfl⟩ := h
    obtain ⟨w', hw', hcs₂⟩ := exists_spaces cs₂
    obtain ⟨t, ht, hcs₃⟩ := ih (.value v) _ _ hv
    rw [hcolon, hcs₂, hcs₃] at hcs₁
    exact ⟨_, .field hs hw hw' ht, by simp [hcs₁]⟩
  · cases h

theorem spells_of_readValue {v : Value} (h : readValue (n + 1) cs = some (v, rest)) :
    ∃ s, Spells (.value v) s ∧ cs = s ++ rest := by
  unfold readValue at h
  split at h
  · cases h
  · simp only [Option.map_eq_some_iff, Prod.exists, Prod.mk.injEq] at h
    obtain ⟨k, rest, hk, rfl, rfl⟩ := h
    obtain ⟨s, hs, hcs⟩ := quoted_of_readQuoted hk
    exact ⟨s, .string hs, hcs⟩
  · next cs hn =>
    cases hn
    obtain ⟨w, hw, hcs⟩ := exists_spaces cs
    split at h
    · next hend =>
      cases h
      rw [hend] at hcs
      exact ⟨_, .noItem hw, by simp [hcs]⟩
    · simp only [Option.bind_eq_some_iff, Option.map_eq_some_iff, Prod.exists, Prod.mk.injEq] at h
      obtain ⟨v, cs₁, hv, vs, cs₂, hvs, rfl, rfl⟩ := h
      obtain ⟨s, hs, hcs₁⟩ := ih (.value v) _ _ hv
      obtain ⟨t, ht, rfl⟩ := ih (.items vs) _ _ hvs
      rw [hcs₁] at hcs
      exact ⟨_, .array hw hs ht, by simp [hcs]⟩
  · next cs hn =>
    cases hn
    obtain ⟨w, hw, hcs⟩ := exists_spaces cs
    split at h
    · next hend =>
      cases h
      rw [hend] at hcs
      exact ⟨_, .noField hw, by simp [hcs]⟩
    · simp only [Option.bind_eq_some_iff, Option.map_eq_some_iff, Prod.exists, Prod.mk.injEq] at h
      obtain ⟨k, v, cs₁, hf, fs, cs₂, hfs, rfl, rfl⟩ := h
      obtain ⟨s, hs, hcs₁⟩ := ih (.field (k, v)) _ _ hf
      obtain ⟨t, ht, rfl⟩ := ih (.fields fs) _ _ hfs
      rw [hcs₁] at hcs
      exact ⟨_, .object hw hs ht, by simp [hcs]⟩
  · exact spells_of_readAtom h

end Sound

/-- **Soundness.** What a reader takes is a phrase of the grammar. -/
theorem sound (n : Nat) : Sound n := by
  induction n with
  | zero =>
    intro p cs rest h
    cases p <;> cases h
  | succ n ih =>
    intro p cs rest h
    cases p with
    | value v => exact spells_of_readValue ih h
    | items vs => exact spells_of_readItems ih h
    | field f => exact spells_of_readField ih h
    | fields fs => exact spells_of_readFields ih h

/-! ## What is written -/

/-- What may follow the phrase; a bracket needs no care. -/
def Phrase.EndsBefore (rest : List Char) : Phrase → Prop
  | value _ | field _ => Stops rest
  | items _ | fields _ => True

theorem skipSpaces_append (hw : Spaces w) (hs : ∀ c ∈ s.head?, isSpace c = false) :
    skipSpaces (w ++ s) = s := by
  have hspan := Text.span_append hw hs
  rw [List.span_eq_takeWhile_dropWhile, Prod.mk.injEq] at hspan
  exact hspan.2

theorem stops_of_isSpace {c : Char} (h : isSpace c = true) : Stops (c :: cs) := by
  intro d hd
  cases hd
  simp only [isSpace, List.contains_iff_mem, List.mem_cons, List.not_mem_nil, or_false] at h
  rcases h with rfl | rfl | rfl | rfl <;> decide

theorem Spaces.stops_append (hw : Spaces w) (hs : Stops s) : Stops (w ++ s) := by
  cases w with
  | nil => exact hs
  | cons c w => exact stops_of_isSpace (hw c List.mem_cons_self)

theorem Spells.stops_items {vs : List Value} (h : Spells (.items vs) s) : Stops (s ++ rest) := by
  cases h with
  | lastItem hw =>
    rw [List.append_assoc]
    exact hw.stops_append (by simp [Stops])
  | moreItems hw =>
    rw [List.append_assoc]
    exact hw.stops_append (by simp [Stops])

theorem Spells.stops_fields {fs : List (String × Value)} (h : Spells (.fields fs) s) :
    Stops (s ++ rest) := by
  cases h with
  | lastField hw =>
    rw [List.append_assoc]
    exact hw.stops_append (by simp [Stops])
  | moreFields hw =>
    rw [List.append_assoc]
    exact hw.stops_append (by simp [Stops])

theorem Number.exists_cons_ne {m e : Int} (h : Number m e s) :
    ∃ d t, s = d :: t ∧ ∀ x, x.isDigit = false → x ≠ '-' → d ≠ x := by
  obtain ⟨d, t, rfl, hd⟩ := h.exists_cons
  refine ⟨d, t, rfl, ?_⟩
  rintro x hx hminus rfl
  rcases hd with hd | hd
  · rw [hx] at hd
    cases hd
  · exact hminus hd

/-- A value begins with no blank and with no closing bracket. -/
theorem Spells.exists_cons {v : Value} (h : Spells (.value v) s) :
    ∃ c t, s = c :: t ∧ isSpace c = false ∧ c ≠ ']' := by
  cases h with
  | nullName => exact ⟨'n', _, rfl, by decide, by decide⟩
  | trueName => exact ⟨'t', _, rfl, by decide, by decide⟩
  | falseName => exact ⟨'f', _, rfl, by decide, by decide⟩
  | string h =>
    cases h
    exact ⟨'"', _, rfl, by decide, by decide⟩
  | noItem | array => exact ⟨'[', _, rfl, by decide, by decide⟩
  | noField | object => exact ⟨'\x7b', _, rfl, by decide, by decide⟩
  | number h =>
    obtain ⟨d, t, rfl, hd⟩ := h.exists_cons_ne
    refine ⟨d, t, rfl, ?_, hd _ (by decide) (by decide)⟩
    simp [isSpace, hd]

/-- A field begins with a quote. -/
theorem Spells.field_cons {f : String × Value} (h : Spells (.field f) s) : ∃ t, s = '"' :: t := by
  cases h with
  | field hk =>
    cases hk
    exact ⟨_, rfl⟩

theorem readValue_number {m e : Int} (h : Number m e s) (hrest : Stops rest) (n : Nat) :
    readValue (n + 1) (s ++ rest) = some (.number m e, rest) := by
  have hread := readNumber_append h hrest
  obtain ⟨d, t, rfl, hd⟩ := h.exists_cons_ne
  have hatom : readValue (n + 1) (d :: t ++ rest) = readAtom (d :: t ++ rest) := by
    unfold readValue
    split
    · next hn => cases hn
    · next hquote => exact absurd (List.cons.inj hquote).1 (hd '"' (by decide) (by decide))
    · next hbracket => exact absurd (List.cons.inj hbracket).1 (hd '[' (by decide) (by decide))
    · next hbrace => exact absurd (List.cons.inj hbrace).1 (hd '\x7b' (by decide) (by decide))
    · rfl
  rw [hatom]
  unfold readAtom
  split
  · next hnull => exact absurd (List.cons.inj hnull).1 (hd 'n' (by decide) (by decide))
  · next htrue => exact absurd (List.cons.inj htrue).1 (hd 't' (by decide) (by decide))
  · next hfalse => exact absurd (List.cons.inj hfalse).1 (hd 'f' (by decide) (by decide))
  · rw [hread]
    rfl

/-- A text with a character in it leaves a step for what stands around the character. -/
theorem exists_step {n : Nat} {u v : List Char} {c : Char} (h : (u ++ c :: v).length ≤ n) :
    ∃ k, n = k + 1 ∧ u.length + v.length ≤ k := by
  rw [List.length_append, List.length_cons] at h
  exact ⟨n - 1, by omega, by omega⟩

theorem skipSpaces_value {v : Value} (hw : Spaces w) (hv : Spells (.value v) s) :
    skipSpaces (w ++ (s ++ rest)) = s ++ rest := by
  apply skipSpaces_append hw
  obtain ⟨c, t, rfl, hc, -⟩ := hv.exists_cons
  simp [hc]

theorem skipSpaces_field {f : String × Value} (hw : Spaces w) (hf : Spells (.field f) s) :
    skipSpaces (w ++ (s ++ rest)) = s ++ rest := by
  apply skipSpaces_append hw
  obtain ⟨t, rfl⟩ := hf.field_cons
  simp [isSpace]

theorem skipSpaces_cons {c : Char} (hw : Spaces w) (hc : isSpace c = false) :
    skipSpaces (w ++ c :: rest) = c :: rest :=
  skipSpaces_append hw (by simp [hc])

/-- The text is taken whole for the phrase, in as many steps as it has characters. -/
def Complete (p : Phrase) (s : List Char) : Prop :=
  ∀ n rest, s.length ≤ n → p.EndsBefore rest → p.Reads n (s ++ rest) rest

theorem complete_string {k : String} (h : Quoted k s) : Complete (.value (.string k)) s := by
  intro n rest hn _
  have hread : readQuoted n (s ++ rest) = some (k, rest) := readQuoted_append h hn
  cases h
  obtain ⟨n, rfl, -⟩ := exists_step (u := []) hn
  rw [List.cons_append] at hread ⊢
  rw [Phrase.Reads, readValue, hread]
  rfl

theorem complete_noItem (hw : Spaces w) : Complete (.value (.array [])) ('[' :: (w ++ [']'])) := by
  intro n rest hn _
  obtain ⟨n, rfl, -⟩ := exists_step (u := []) hn
  rw [Phrase.Reads, List.cons_append, List.append_assoc, readValue, List.singleton_append,
    skipSpaces_cons hw (by decide)]
  rfl

theorem complete_array {v : Value} {vs : List Value} (hw : Spaces w) (hv : Spells (.value v) s)
    (hvs : Spells (.items vs) t) (ihv : Complete (.value v) s) (ihvs : Complete (.items vs) t) :
    Complete (.value (.array (v :: vs))) ('[' :: (w ++ (s ++ t))) := by
  intro n rest hn _
  obtain ⟨n, rfl, hlength⟩ := exists_step (u := []) hn
  simp only [List.length_append] at hlength
  have hreadv : readValue n (s ++ (t ++ rest)) = some (v, t ++ rest) :=
    ihv n _ (by omega) hvs.stops_items
  have hreadvs : readItems n (t ++ rest) = some (vs, rest) := ihvs n _ (by omega) trivial
  rw [Phrase.Reads, List.cons_append, List.append_assoc, List.append_assoc, readValue,
    skipSpaces_value hw hv]
  split
  · next hend =>
    obtain ⟨c, s, rfl, -, hc⟩ := hv.exists_cons
    exact absurd (List.cons.inj hend).1 hc
  · simp only [hreadv, hreadvs, Option.bind_some, Option.map_some]

theorem complete_lastItem (hw : Spaces w) : Complete (.items []) (w ++ [']']) := by
  intro n rest hn _
  obtain ⟨n, rfl, -⟩ := exists_step hn
  rw [Phrase.Reads, List.append_assoc, List.singleton_append, readItems,
    skipSpaces_cons hw (by decide)]
  rfl

theorem complete_moreItems {v : Value} {vs : List Value} (hw : Spaces w) (hw' : Spaces w')
    (hv : Spells (.value v) s) (hvs : Spells (.items vs) t) (ihv : Complete (.value v) s)
    (ihvs : Complete (.items vs) t) :
    Complete (.items (v :: vs)) (w ++ ',' :: (w' ++ (s ++ t))) := by
  intro n rest hn _
  obtain ⟨n, rfl, hlength⟩ := exists_step hn
  simp only [List.length_append] at hlength
  have hreadv : readValue n (s ++ (t ++ rest)) = some (v, t ++ rest) :=
    ihv n _ (by omega) hvs.stops_items
  have hreadvs : readItems n (t ++ rest) = some (vs, rest) := ihvs n _ (by omega) trivial
  rw [Phrase.Reads, List.append_assoc, List.cons_append, List.append_assoc, List.append_assoc,
    readItems, skipSpaces_cons hw (by decide)]
  simp only [skipSpaces_value hw' hv, hreadv, hreadvs, Option.bind_some, Option.map_some]

theorem complete_noField (hw : Spaces w) :
    Complete (.value (.object [])) ('\x7b' :: (w ++ ['\x7d'])) := by
  intro n rest hn _
  obtain ⟨n, rfl, -⟩ := exists_step (u := []) hn
  rw [Phrase.Reads, List.cons_append, List.append_assoc, readValue, List.singleton_append,
    skipSpaces_cons hw (by decide)]
  rfl

theorem complete_object {f : String × Value} {fs : List (String × Value)} (hw : Spaces w)
    (hf : Spells (.field f) s) (hfs : Spells (.fields fs) t) (ihf : Complete (.field f) s)
    (ihfs : Complete (.fields fs) t) :
    Complete (.value (.object (f :: fs))) ('\x7b' :: (w ++ (s ++ t))) := by
  intro n rest hn _
  obtain ⟨n, rfl, hlength⟩ := exists_step (u := []) hn
  simp only [List.length_append] at hlength
  have hreadf : readField n (s ++ (t ++ rest)) = some (f, t ++ rest) :=
    ihf n _ (by omega) hfs.stops_fields
  have hreadfs : readFields n (t ++ rest) = some (fs, rest) := ihfs n _ (by omega) trivial
  rw [Phrase.Reads, List.cons_append, List.append_assoc, List.append_assoc, readValue,
    skipSpaces_field hw hf]
  split
  · next hend =>
    obtain ⟨s, rfl⟩ := hf.field_cons
    exact absurd (List.cons.inj hend).1 (by decide)
  · simp only [hreadf, hreadfs, Option.bind_some, Option.map_some]

theorem complete_field {k : String} {v : Value} (hk : Quoted k s) (hw : Spaces w)
    (hw' : Spaces w') (hv : Spells (.value v) t) (ihv : Complete (.value v) t) :
    Complete (.field (k, v)) (s ++ (w ++ ':' :: (w' ++ t))) := by
  intro n rest hn hrest
  rw [← List.append_assoc] at hn
  obtain ⟨n, rfl, hlength⟩ := exists_step hn
  simp only [List.length_append] at hlength
  have hreadv : readValue n (t ++ rest) = some (v, rest) := ihv n _ (by omega) hrest
  rw [Phrase.Reads, List.append_assoc, readField, readQuoted_append hk (by omega)]
  rw [Option.bind_some, List.append_assoc, List.cons_append, List.append_assoc]
  simp only [skipSpaces_cons hw (c := ':') (by decide), skipSpaces_value hw' hv, hreadv,
    Option.map_some]

theorem complete_lastField (hw : Spaces w) : Complete (.fields []) (w ++ ['\x7d']) := by
  intro n rest hn _
  obtain ⟨n, rfl, -⟩ := exists_step hn
  rw [Phrase.Reads, List.append_assoc, List.singleton_append, readFields,
    skipSpaces_cons hw (by decide)]
  rfl

theorem complete_moreFields {f : String × Value} {fs : List (String × Value)} (hw : Spaces w)
    (hw' : Spaces w') (hf : Spells (.field f) s) (hfs : Spells (.fields fs) t)
    (ihf : Complete (.field f) s) (ihfs : Complete (.fields fs) t) :
    Complete (.fields (f :: fs)) (w ++ ',' :: (w' ++ (s ++ t))) := by
  intro n rest hn _
  obtain ⟨n, rfl, hlength⟩ := exists_step hn
  simp only [List.length_append] at hlength
  have hreadf : readField n (s ++ (t ++ rest)) = some (f, t ++ rest) :=
    ihf n _ (by omega) hfs.stops_fields
  have hreadfs : readFields n (t ++ rest) = some (fs, rest) := ihfs n _ (by omega) trivial
  rw [Phrase.Reads, List.append_assoc, List.cons_append, List.append_assoc, List.append_assoc,
    readFields, skipSpaces_cons hw (by decide)]
  simp only [skipSpaces_field hw' hf, hreadf, hreadfs, Option.bind_some, Option.map_some]

/-- **Completeness.** A phrase of the grammar is taken whole. -/
theorem complete {p : Phrase} (h : Spells p s) : Complete p s := by
  induction h with
  | nullName | trueName | falseName =>
    intro n rest hn _
    obtain ⟨n, rfl, -⟩ := exists_step (u := []) hn
    rfl
  | number h =>
    intro n rest hn hrest
    obtain ⟨d, t, rfl, -⟩ := h.exists_cons
    obtain ⟨n, rfl, -⟩ := exists_step (u := []) hn
    exact readValue_number h hrest n
  | string h => exact complete_string h
  | noItem hw => exact complete_noItem hw
  | array hw hv hvs ihv ihvs => exact complete_array hw hv hvs ihv ihvs
  | lastItem hw => exact complete_lastItem hw
  | moreItems hw hw' hv hvs ihv ihvs => exact complete_moreItems hw hw' hv hvs ihv ihvs
  | noField hw => exact complete_noField hw
  | object hw hf hfs ihf ihfs => exact complete_object hw hf hfs ihf ihfs
  | field hk hw hw' hv ihv => exact complete_field hk hw hw' hv ihv
  | lastField hw => exact complete_lastField hw
  | moreFields hw hw' hf hfs ihf ihfs => exact complete_moreFields hw hw' hf hfs ihf ihfs

/-! ## Documents -/

theorem Spaces.stops (hw : Spaces w) : Stops w := by
  have h := hw.stops_append (s := []) (by simp [Stops])
  rwa [List.append_nil] at h

/-- **Reading.** The documents are read, each as its value, and nothing else is. -/
theorem read_eq_some_iff {v : Value} : read cs = some v ↔ Document v cs := by
  constructor
  · intro h
    simp only [read, Option.bind_eq_some_iff, Prod.exists] at h
    obtain ⟨v', rest, hread, h⟩ := h
    split at h
    · next hrest =>
      cases h
      obtain ⟨w, hw, hcs⟩ := exists_spaces cs
      obtain ⟨w', hw', hrest'⟩ := exists_spaces rest
      obtain ⟨s, hs, hfront⟩ := sound _ (.value v) _ _ hread
      rw [hrest, List.append_nil] at hrest'
      exact ⟨w, s, w', hw, hs, hw', by rw [hcs, hfront, hrest']⟩
    · cases h
  · rintro ⟨w, s, w', hw, hs, hw', rfl⟩
    have hlength : s.length ≤ (w ++ (s ++ w')).length := by
      simp only [List.length_append]
      omega
    have hread : readValue (w ++ (s ++ w')).length (s ++ w') = some (v, w') :=
      complete hs _ _ hlength hw'.stops
    have hrest : skipSpaces w' = [] := List.dropWhile_eq_nil_iff.2 hw'
    rw [read, skipSpaces_value hw hs, hread]
    simp [hrest]

end MonkeyScan.JsonText
