import Mathlib.Data.List.DropRight
import MonkeyScan.Text.Split

/-!
# Pieces and lines

What `split` makes of a list by its first separator: without one the list is the only piece
(`split_of_not_mem`), and otherwise what stands in front of it is a piece, in front of those of
the rest (`split_append_cons`). Every list is of one of the two forms, and `line_induction` goes
through it one separator after the other.

The `lines` of a list are its pieces, but for an empty one behind the last separator: a separator
ends a line, and only what follows the last of them is a line without one. There are as many as
separators, and one more if the list does not end with a separator (`length_lines`).
-/

namespace MonkeyScan.Text

variable {α β : Type} [DecidableEq α] [DecidableEq β]

/-! ## Pieces -/

theorem split_cons_self (sep : α) (xs : List α) : split sep (sep :: xs) = [] :: split sep xs :=
  if_pos rfl

theorem split_cons_of_ne {sep x : α} (h : x ≠ sep) {xs piece : List α} {pieces : List (List α)}
    (hs : split sep xs = piece :: pieces) : split sep (x :: xs) = (x :: piece) :: pieces := by
  rw [split, if_neg h, hs]

theorem split_of_not_mem {sep : α} {xs : List α} (h : sep ∉ xs) : split sep xs = [xs] := by
  induction xs with
  | nil => rfl
  | cons x xs ih =>
    rw [List.mem_cons, not_or] at h
    exact split_cons_of_ne (Ne.symm h.1) (ih h.2)

theorem split_append_cons {sep : α} {piece : List α} (h : sep ∉ piece) (rest : List α) :
    split sep (piece ++ sep :: rest) = piece :: split sep rest := by
  induction piece with
  | nil => exact split_cons_self sep rest
  | cons x piece ih =>
    rw [List.mem_cons, not_or] at h
    exact split_cons_of_ne (Ne.symm h.1) (ih h.2)

/-- A list has no separator, or has one behind a piece without and a list behind that. -/
theorem line_induction (sep : α) {motive : List α → Prop}
    (last : ∀ piece, sep ∉ piece → motive piece)
    (cons : ∀ piece rest, sep ∉ piece → motive rest → motive (piece ++ sep :: rest))
    (xs : List α) : motive xs := by
  -- What is read of a piece already has to be kept for the case that its end comes next.
  have key : ∀ piece, sep ∉ piece → motive (piece ++ xs) := by
    induction xs with
    | nil =>
      intro piece h
      rw [List.append_nil]
      exact last piece h
    | cons x xs ih =>
      intro piece h
      by_cases hx : x = sep
      · subst hx
        exact cons piece xs h (ih [] List.not_mem_nil)
      · have h' : sep ∉ piece ++ [x] := by
          rw [List.mem_append, List.mem_singleton, not_or]
          exact ⟨h, Ne.symm hx⟩
        have hmore := ih (piece ++ [x]) h'
        rwa [List.append_assoc] at hmore
  exact key [] List.not_mem_nil

theorem mem_of_mem_split {sep x : α} {xs piece : List α} (h : piece ∈ split sep xs)
    (hx : x ∈ piece) : x ∈ xs := by
  induction xs using line_induction sep with
  | last only honly =>
    rw [split_of_not_mem honly, List.mem_singleton] at h
    exact h ▸ hx
  | cons first rest hfirst ih =>
    rw [split_append_cons hfirst, List.mem_cons] at h
    rcases h with rfl | h
    · exact List.mem_append_left _ hx
    · exact List.mem_append_right _ (List.mem_cons_of_mem sep (ih h))

/-! ## Lines -/

/-- The pieces that end with a separator, and what follows the last of them, if there is
anything. -/
def lines (sep : α) (xs : List α) : List (List α) :=
  if (split sep xs).getLast? = some [] then (split sep xs).dropLast else split sep xs

theorem lines_nil (sep : α) : lines sep [] = [] := rfl

theorem lines_of_not_mem {sep : α} {xs : List α} (h : sep ∉ xs) (hne : xs ≠ []) :
    lines sep xs = [xs] := by
  rw [lines, split_of_not_mem h, if_neg]
  intro hlast
  exact hne (Option.some.inj hlast)

theorem lines_append_cons {sep : α} {piece : List α} (h : sep ∉ piece) (rest : List α) :
    lines sep (piece ++ sep :: rest) = piece :: lines sep rest := by
  obtain ⟨p, ps, hs⟩ := List.exists_cons_of_ne_nil (split_ne_nil sep rest)
  simp only [lines, split_append_cons h, hs, List.getLast?_cons_cons, List.dropLast_cons_cons]
  split
  · rfl
  · rfl

theorem not_mem_of_mem_lines {sep : α} {xs line : List α} (h : line ∈ lines sep xs) :
    sep ∉ line := by
  rw [lines] at h
  split at h
  · exact not_mem_of_mem_split ((List.dropLast_subset _) h)
  · exact not_mem_of_mem_split h

theorem length_lines (sep : α) (xs : List α) :
    (lines sep xs).length =
      xs.count sep + if xs ≠ [] ∧ xs.getLast? ≠ some sep then 1 else 0 := by
  induction xs using line_induction sep with
  | last piece h =>
    by_cases hne : piece = []
    · subst hne
      rfl
    · have hlast : piece.getLast? ≠ some sep := fun hl => h (List.mem_of_getLast? hl)
      rw [lines_of_not_mem h hne, if_pos ⟨hne, hlast⟩, List.count_eq_zero.2 h]
      rfl
  | cons piece rest h ih =>
    have hend : (piece ++ sep :: rest ≠ [] ∧ (piece ++ sep :: rest).getLast? ≠ some sep) ↔
        (rest ≠ [] ∧ rest.getLast? ≠ some sep) := by
      rcases List.eq_nil_or_concat rest with rfl | ⟨rest, x, rfl⟩
      · simp
      · simp [List.getLast?_append, List.getLast?_cons]
    rw [lines_append_cons h, List.length_cons, ih, List.count_append, List.count_eq_zero.2 h,
      List.count_cons_self]
    simp only [hend]
    omega

theorem rdropWhile_append_cons {γ : Type} {p : γ → Bool} {x : γ} (hx : ¬ p x = true)
    (xs ys : List γ) :
    (xs ++ x :: ys).rdropWhile p = xs ++ x :: ys.rdropWhile p := by
  induction ys using List.reverseRecOn with
  | nil => rw [List.rdropWhile_concat_neg p xs x hx, List.rdropWhile_nil]
  | append_singleton ys y ih =>
    rw [← List.cons_append, ← List.append_assoc, List.rdropWhile_concat, List.rdropWhile_concat,
      ih]
    split
    · rfl
    · rw [List.append_assoc, List.cons_append]

/-- Without what follows the last separator, the lines of a list are the pieces that end with
one. -/
theorem lines_rdropWhile (sep : α) (xs : List α) :
    lines sep (xs.rdropWhile (· ≠ sep)) = (split sep xs).dropLast := by
  induction xs using line_induction sep with
  | last piece h =>
    have hall : ∀ x ∈ piece, decide (x ≠ sep) = true := by
      intro x hx
      exact decide_eq_true fun e => h (e ▸ hx)
    rw [List.rdropWhile_eq_nil_iff.2 hall, split_of_not_mem h]
    rfl
  | cons piece rest h ih =>
    rw [rdropWhile_append_cons (by simp), lines_append_cons h, ih, split_append_cons h,
      List.dropLast_cons_of_ne_nil (split_ne_nil sep rest)]

/-- A list may be spelled out before it is cut into lines, if the separator is spelled as one and
nothing else has a separator in its spelling. -/
theorem lines_flatMap (f : α → List β) {sep : α} {sep' : β} (hsep : f sep = [sep'])
    (hother : ∀ x, x ≠ sep → sep' ∉ f x ∧ f x ≠ []) (xs : List α) :
    lines sep' (xs.flatMap f) = (lines sep xs).map (List.flatMap f) := by
  have hpiece : ∀ piece : List α, sep ∉ piece → sep' ∉ piece.flatMap f := by
    intro piece h hmem
    obtain ⟨x, hx, hf⟩ := List.mem_flatMap.1 hmem
    have hne : x ≠ sep := fun e => h (e ▸ hx)
    exact (hother x hne).1 hf
  induction xs using line_induction sep with
  | last piece h =>
    obtain _ | ⟨x, piece⟩ := piece
    · rfl
    · have hne : (x :: piece).flatMap f ≠ [] := by
        have hx : x ≠ sep := fun e => h (e ▸ List.mem_cons_self)
        rw [List.flatMap_cons]
        exact fun hnil => (hother x hx).2 (List.append_eq_nil_iff.1 hnil).1
      rw [lines_of_not_mem (hpiece _ h) hne, lines_of_not_mem h (List.cons_ne_nil x piece)]
      rfl
  | cons piece rest h ih =>
    rw [List.flatMap_append, List.flatMap_cons, hsep, List.singleton_append,
      lines_append_cons (hpiece _ h), lines_append_cons h, ih, List.map_cons]

end MonkeyScan.Text
