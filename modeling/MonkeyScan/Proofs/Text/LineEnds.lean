import MonkeyScan.Proofs.Text.Split
import MonkeyScan.Text.Trim
import MonkeyScan.Utf8

/-!
# Line ends of two characters

Some texts end a line with a carriage return and a line feed, others with the line feed alone.
`dropReturns` makes the second kind of a text of the first: it takes the carriage return out of
each pair and leaves every other one where it is. Each pair costs a byte (`size_dropReturns`).

Line by line, at most one carriage return goes from the end of a line that is ended
(`exists_dropReturns_line`), and nothing from one that is not (`dropReturns_of_not_mem`).
-/

namespace MonkeyScan.Text

/-- The text without the carriage returns that stand in front of a line feed. -/
def dropReturns : List Char → List Char
  | [] => []
  | c :: cs => if c = '\r' ∧ cs.head? = some '\n' then dropReturns cs else c :: dropReturns cs

/-- How many pairs of a carriage return and a line feed are in a text. -/
def endPairs (cs : List Char) : Nat := (cs.zip cs.tail).count ('\r', '\n')

theorem endPairs_cons (c : Char) (cs : List Char) :
    endPairs (c :: cs) = endPairs cs + if c = '\r' ∧ cs.head? = some '\n' then 1 else 0 := by
  cases cs with
  | nil => simp [endPairs]
  | cons d cs => simp [endPairs, List.count_cons]

theorem size_dropReturns (cs : List Char) :
    Utf8.size (dropReturns cs) + endPairs cs = Utf8.size cs := by
  induction cs with
  | nil => rfl
  | cons c cs ih =>
    rw [dropReturns, endPairs_cons, Utf8.size_cons]
    split
    · next h =>
      have hsize : c.utf8Size = 1 := by rw [h.1]; rfl
      omega
    · rw [Utf8.size_cons]
      omega

theorem dropReturns_cons_of_ne {c : Char} (h : c ≠ '\r') (cs : List Char) :
    dropReturns (c :: cs) = c :: dropReturns cs :=
  if_neg fun hc => h hc.1

/-- No pair is made by putting two texts in a row if no return ends the first or no line feed
begins the second. -/
theorem dropReturns_append {cs ds : List Char}
    (h : cs.getLast? = some '\r' → ds.head? ≠ some '\n') :
    dropReturns (cs ++ ds) = dropReturns cs ++ dropReturns ds := by
  induction cs with
  | nil => rfl
  | cons c cs ih =>
    cases cs with
    | nil =>
      have hpair : ¬ (c = '\r' ∧ ds.head? = some '\n') := fun hc => h (congrArg some hc.1) hc.2
      rw [List.singleton_append, dropReturns, if_neg hpair]
      simp [dropReturns]
    | cons d cs =>
      have hih := ih fun hlast => h (by rwa [List.getLast?_cons_cons])
      have hhead : (d :: cs ++ ds).head? = (d :: cs).head? := rfl
      rw [List.cons_append, dropReturns, dropReturns, hih, hhead]
      by_cases hpair : c = '\r' ∧ (d :: cs).head? = some '\n'
      · rw [if_pos hpair, if_pos hpair]
      · rw [if_neg hpair, if_neg hpair, List.cons_append]

theorem dropReturns_of_not_mem {cs : List Char} (h : '\n' ∉ cs) : dropReturns cs = cs := by
  induction cs with
  | nil => rfl
  | cons c cs ih =>
    rw [List.mem_cons, not_or] at h
    have hpair : ¬ (c = '\r' ∧ cs.head? = some '\n') := fun hc => h.2 (List.mem_of_head? hc.2)
    rw [dropReturns, if_neg hpair, ih h.2]

/-- The last character of a text stays. -/
theorem getLast?_dropReturns (cs : List Char) : (dropReturns cs).getLast? = cs.getLast? := by
  induction cs with
  | nil => rfl
  | cons c cs ih =>
    rw [dropReturns]
    split
    · next h =>
      obtain ⟨ds, rfl⟩ := List.head?_eq_some_iff.1 h.2
      rw [ih, List.getLast?_cons_cons]
    · rw [List.getLast?_cons, List.getLast?_cons, ih]

/-- Of a line that is ended, what goes is nothing or a carriage return at its end. -/
theorem exists_dropReturns_line {line : List Char} (h : '\n' ∉ line) :
    ∃ body tail, line = body ++ tail ∧ (tail = [] ∨ tail = ['\r']) ∧
      ∀ rest, dropReturns (line ++ '\n' :: rest) = body ++ '\n' :: dropReturns rest := by
  by_cases hlast : line.getLast? = some '\r'
  · obtain ⟨body, rfl⟩ := List.getLast?_eq_some_iff.1 hlast
    refine ⟨body, ['\r'], rfl, Or.inr rfl, fun rest => ?_⟩
    have hbody : '\n' ∉ body := fun hmem => h (List.mem_append_left _ hmem)
    have hseam : body.getLast? = some '\r' → ('\r' :: '\n' :: rest).head? ≠ some '\n' := by
      intro _ heq
      cases heq
    rw [List.append_assoc, List.singleton_append, dropReturns_append hseam,
      dropReturns_of_not_mem hbody, dropReturns, if_pos ⟨rfl, rfl⟩,
      dropReturns_cons_of_ne (by decide)]
  · refine ⟨line, [], (List.append_nil line).symm, Or.inl rfl, fun rest => ?_⟩
    rw [dropReturns_append fun hr => absurd hr hlast, dropReturns_of_not_mem h,
      dropReturns_cons_of_ne (by decide)]

/-- A return that goes from the end of a line is trimmed where it stays. -/
theorem trimEnd_append_return {p : Char → Bool} (hp : p '\r' = true) {tail : List Char}
    (h : tail = [] ∨ tail = ['\r']) (cs : List Char) : trimEnd p (cs ++ tail) = trimEnd p cs := by
  refine trimEnd_append_of_all (fun c hc => ?_) cs
  rcases h with rfl | rfl
  · exact absurd hc List.not_mem_nil
  · rwa [List.mem_singleton.1 hc]

end MonkeyScan.Text
