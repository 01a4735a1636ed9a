import MonkeyScan.Utf8

/-!
# Texts cut at a byte

A place in a text can be told by the number of bytes in front of it, but not every number is a
place: a text is cut only where a character begins or the text ends (`cutAt?_eq_some_iff`).

To take the characters of a class from the front of a text, the byte at which they end is looked
for first, and then the text is cut there. `cutAt?_spanStop` says that it can always be cut there,
and into which two parts.
-/

namespace MonkeyScan.Text

/-- The parts of a text in front of byte `n` and behind it, if a character begins at this byte or
the text ends there. -/
def cutAt? : Nat → List Char → Option (List Char × List Char)
  | 0, cs => some ([], cs)
  | _ + 1, [] => none
  | n + 1, c :: cs =>
    if c.utf8Size ≤ n + 1 then
      (cutAt? (n + 1 - c.utf8Size) cs).map fun parts => (c :: parts.1, parts.2)
    else none

/-- The byte at which the first character that satisfies `p` begins, where the text itself begins
at byte `n`. -/
def firstByte? (p : Char → Bool) (n : Nat) : List Char → Option Nat
  | [] => none
  | c :: cs => if p c then some n else firstByte? p (n + c.utf8Size) cs

/-- The byte at which the characters that satisfy `p` end at the front of a text. -/
def spanStop (p : Char → Bool) (cs : List Char) : Nat :=
  (firstByte? (fun c => !p c) 0 cs).getD (Utf8.size cs)

/-! ## Where a text can be cut -/

theorem cutAt?_utf8Size_add (c : Char) (n : Nat) (cs : List Char) :
    cutAt? (c.utf8Size + n) (c :: cs) =
      (cutAt? n cs).map fun parts => (c :: parts.1, parts.2) := by
  -- A character takes a byte at least, so that this is not the cut at the front.
  obtain ⟨m, hm⟩ : ∃ m, c.utf8Size + n = m + 1 :=
    ⟨c.utf8Size + n - 1, by have := c.utf8Size_pos; omega⟩
  rw [hm, cutAt?, if_pos (by omega), ← hm, Nat.add_sub_cancel_left]

theorem cutAt?_size_append (u v : List Char) : cutAt? (Utf8.size u) (u ++ v) = some (u, v) := by
  induction u with
  | nil => rw [Utf8.size_nil, List.nil_append, cutAt?]
  | cons c u ih => rw [Utf8.size_cons, List.cons_append, cutAt?_utf8Size_add, ih, Option.map_some]

theorem cutAt?_eq_some_iff {n : Nat} {cs u v : List Char} :
    cutAt? n cs = some (u, v) ↔ cs = u ++ v ∧ n = Utf8.size u := by
  constructor
  · intro h
    fun_induction cutAt? n cs generalizing u v with
    | case1 cs => cases h; exact ⟨rfl, rfl⟩
    | case2 => cases h
    | case3 n c cs hle ih =>
      obtain ⟨parts, hparts, heq⟩ := Option.map_eq_some_iff.1 h
      obtain ⟨rfl, rfl⟩ := Prod.mk.inj heq
      obtain ⟨hcs, hn⟩ := ih hparts
      refine ⟨congrArg (c :: ·) hcs, ?_⟩
      rw [Utf8.size_cons, ← hn]
      omega
    | case4 => cases h
  · rintro ⟨rfl, rfl⟩
    exact cutAt?_size_append u v

/-! ## Spans -/

theorem firstByte?_getD (p : Char → Bool) (n : Nat) (cs : List Char) :
    (firstByte? (fun c => !p c) n cs).getD (n + Utf8.size cs) =
      n + Utf8.size (cs.takeWhile p) := by
  induction cs generalizing n with
  | nil => rfl
  | cons c cs ih =>
    by_cases hc : p c = true
    · rw [firstByte?, if_neg (by simp [hc]), List.takeWhile_cons_of_pos hc, Utf8.size_cons,
        Utf8.size_cons, ← Nat.add_assoc, ← Nat.add_assoc]
      exact ih _
    · rw [firstByte?, if_pos (by simp [hc]), List.takeWhile_cons_of_neg hc]
      rfl

theorem spanStop_eq (p : Char → Bool) (cs : List Char) :
    spanStop p cs = Utf8.size (cs.takeWhile p) := by
  have h := firstByte?_getD p 0 cs
  rwa [Nat.zero_add, Nat.zero_add] at h

/-- The byte that is looked for is one at which the text can be cut. -/
theorem cutAt?_spanStop (p : Char → Bool) (cs : List Char) :
    cutAt? (spanStop p cs) cs = some (cs.takeWhile p, cs.dropWhile p) :=
  cutAt?_eq_some_iff.2 ⟨List.takeWhile_append_dropWhile.symm, spanStop_eq p cs⟩

/-- The characters that satisfy `p` at the front of a text, and what follows them. -/
def cutSpan (p : Char → Bool) (cs : List Char) : List Char × List Char :=
  (cutAt? (spanStop p cs) cs).get (by rw [cutAt?_spanStop]; rfl)

theorem cutSpan_eq (p : Char → Bool) (cs : List Char) :
    cutSpan p cs = (cs.takeWhile p, cs.dropWhile p) := by
  simp only [cutSpan, cutAt?_spanStop, Option.get_some]

end MonkeyScan.Text
