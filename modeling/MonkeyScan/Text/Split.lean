/-!
# Splitting at a separator

A list is cut at every occurrence of a separator into the pieces between, which may be empty; there
is always one piece more than there are separators. `intercalate_split` and `not_mem_of_mem_split`
say that the pieces with separators between them are the list, and that no piece holds one.
-/

namespace MonkeyScan.Text

variable {α : Type} [DecidableEq α]

def split (sep : α) : List α → List (List α)
  | [] => [[]]
  | x :: xs =>
    if x = sep then [] :: split sep xs
    else match split sep xs with
      | [] => [[x]]
      | piece :: pieces => (x :: piece) :: pieces

theorem split_ne_nil (sep : α) (xs : List α) : split sep xs ≠ [] := by
  cases xs with
  | nil => simp [split]
  | cons x xs =>
    simp only [split]
    split
    · simp
    · split <;> simp

theorem intercalate_split (sep : α) (xs : List α) : [sep].intercalate (split sep xs) = xs := by
  induction xs with
  | nil => simp [split]
  | cons x xs ih =>
    simp only [split]
    cases h : split sep xs with
    | nil => exact absurd h (split_ne_nil sep xs)
    | cons piece pieces =>
      rw [h] at ih
      split
      · next hx => rw [hx, ← ih]; rfl
      · rw [← ih]; cases pieces <;> rfl

theorem not_mem_of_mem_split {sep : α} {xs piece : List α} (h : piece ∈ split sep xs) :
    sep ∉ piece := by
  induction xs generalizing piece with
  | nil => simp_all [split]
  | cons x xs ih =>
    simp only [split] at h
    cases hs : split sep xs with
    | nil => exact absurd hs (split_ne_nil sep xs)
    | cons p ps =>
      rw [hs] at h ih
      split at h
      · simp only [List.mem_cons] at h ih
        rcases h with rfl | h
        · simp
        · exact ih (by simpa using h)
      · next hx =>
        simp only [List.mem_cons] at h ih
        rcases h with rfl | h
        · have := ih (Or.inl rfl)
          simp [this, Ne.symm hx]
        · exact ih (Or.inr h)

end MonkeyScan.Text
