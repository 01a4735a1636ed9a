/-!
# The end of a line

A text without the characters of a class that stand at its end. `trimEnd_append` says that what
is left out is a suffix of that class, and `getLast?_trimEnd` that nothing more could be left out.
Texts that differ only in such a suffix are trimmed to the same (`trimEnd_append_of_all`).
-/

namespace MonkeyScan.Text

/-- The text without its longest tail of characters that satisfy `p`. -/
def trimEnd (p : Char → Bool) (cs : List Char) : List Char := (cs.reverse.dropWhile p).reverse

theorem trimEnd_append (p : Char → Bool) (cs : List Char) :
    ∃ tail, cs = trimEnd p cs ++ tail ∧ ∀ c ∈ tail, p c = true := by
  refine ⟨(cs.reverse.takeWhile p).reverse, ?_, ?_⟩
  · rw [trimEnd, ← List.reverse_append, List.takeWhile_append_dropWhile, List.reverse_reverse]
  · intro c hc
    exact List.all_eq_true.1 List.all_takeWhile c (List.mem_reverse.1 hc)

theorem getLast?_trimEnd {p : Char → Bool} {cs : List Char} {c : Char}
    (h : (trimEnd p cs).getLast? = some c) : p c = false := by
  rw [trimEnd, List.getLast?_reverse] at h
  simpa [h] using List.head?_dropWhile_not p cs.reverse

/-- A tail of the class that is trimmed makes no difference. -/
theorem trimEnd_append_of_all {p : Char → Bool} {tail : List Char}
    (h : ∀ c ∈ tail, p c = true) (cs : List Char) : trimEnd p (cs ++ tail) = trimEnd p cs := by
  have hall : ∀ c ∈ tail.reverse, p c = true := fun c hc => h c (List.mem_reverse.1 hc)
  rw [trimEnd, trimEnd, List.reverse_append, List.dropWhile_append_of_pos hall]

end MonkeyScan.Text
