import MonkeyScan.Proofs.Text.Split
import MonkeyScan.Text.Line

/-!
# The line of an offset

A line of a source is found by its bytes: it is the last that starts at the offset or before. For
a source that is cut around a line this is that line, for every offset in the line and for the one
at its end (`containing_ofSource`): every line in front starts earlier, so that this one comes
later in the list, and every line behind starts beyond the offset (`le_start_of_mem_place`).
-/

namespace MonkeyScan.Text.Line

/-- The text in front of a line: none, or one that ends with a line feed. -/
def Ended (before : List Char) : Prop := before = [] ∨ before.getLast? = some '\n'

/-- The text behind a line: none, or one that begins with a line feed. -/
def Begun (behind : List Char) : Prop := behind = [] ∨ behind.head? = some '\n'

theorem exists_ended (cs : List Char) :
    ∃ before head, cs = before ++ head ∧ Ended before ∧ '\n' ∉ head := by
  induction cs using List.reverseRecOn with
  | nil => exact ⟨[], [], rfl, Or.inl rfl, List.not_mem_nil⟩
  | append_singleton cs c ih =>
    by_cases hc : c = '\n'
    · subst hc
      exact ⟨cs ++ ['\n'], [], (List.append_nil _).symm, Or.inr List.getLast?_concat,
        List.not_mem_nil⟩
    · obtain ⟨before, head, rfl, hbefore, hhead⟩ := ih
      refine ⟨before, head ++ [c], List.append_assoc .., hbefore, ?_⟩
      rw [List.mem_append, List.mem_singleton, not_or]
      exact ⟨hhead, Ne.symm hc⟩

theorem exists_begun (cs : List Char) :
    ∃ tail behind, cs = tail ++ behind ∧ '\n' ∉ tail ∧ Begun behind := by
  induction cs with
  | nil => exact ⟨[], [], rfl, List.not_mem_nil, Or.inl rfl⟩
  | cons c cs ih =>
    by_cases hc : c = '\n'
    · subst hc
      exact ⟨[], '\n' :: cs, rfl, List.not_mem_nil, Or.inr rfl⟩
    · obtain ⟨tail, behind, rfl, htail, hbehind⟩ := ih
      refine ⟨c :: tail, behind, rfl, ?_, hbehind⟩
      rw [List.mem_cons, not_or]
      exact ⟨Ne.symm hc, htail⟩

theorem Ended.of_append_cons {piece rest : List Char} (h : Ended (piece ++ '\n' :: rest)) :
    Ended rest := by
  rcases h with hnil | hlast
  · exact absurd hnil (by simp)
  · cases rest with
    | nil => exact Or.inl rfl
    | cons c rest =>
      rw [List.getLast?_append_of_ne_nil _ (List.cons_ne_nil _ _), List.getLast?_cons_cons] at hlast
      exact Or.inr hlast

theorem Ended.eq_nil_of_not_mem {cs : List Char} (h : Ended cs) (hcs : '\n' ∉ cs) : cs = [] := by
  rcases h with rfl | hlast
  · rfl
  · exact absurd (List.mem_of_getLast? hlast) hcs

theorem le_start_of_mem_place {number start : Nat} {ls : List (List Char)} {l : Line}
    (h : l ∈ place number start ls) : start ≤ l.start := by
  induction ls generalizing number start with
  | nil => cases h
  | cons chars rest ih =>
    rw [place, List.mem_cons] at h
    rcases h with rfl | h
    · exact Nat.le_refl _
    · have hle := ih h
      omega

theorem chars_mem_of_mem_place {number start : Nat} {ls : List (List Char)} {l : Line}
    (h : l ∈ place number start ls) : l.chars ∈ ls := by
  induction ls generalizing number start with
  | nil => cases h
  | cons chars rest ih =>
    rw [place, List.mem_cons] at h
    rcases h with rfl | h
    · exact List.mem_cons_self
    · exact List.mem_cons_of_mem chars (ih h)

/-- Whatever the offset is, its line is made of characters of the source. -/
theorem mem_of_mem_containing {offset : Nat} {cs : List Char} {c : Char}
    (h : c ∈ (containing offset (ofSource cs)).chars) : c ∈ cs := by
  rw [containing, List.getLastD_eq_getLast?] at h
  cases hlast : ((ofSource cs).filter (·.start ≤ offset)).getLast? with
  | none =>
    rw [hlast] at h
    cases h
  | some l =>
    rw [hlast] at h
    have hl : l ∈ ofSource cs := List.mem_of_mem_filter (List.mem_of_getLast? hlast)
    exact mem_of_mem_split (chars_mem_of_mem_place hl) h

/-- Of lines that all start beyond the offset, none is kept. -/
theorem filter_place_eq_nil {number start offset : Nat} (h : offset < start)
    (ls : List (List Char)) : (place number start ls).filter (·.start ≤ offset) = [] := by
  refine List.filter_eq_nil_iff.2 fun l hl => ?_
  have hle := le_start_of_mem_place hl
  rw [decide_eq_true_eq]
  omega

theorem filter_place_line {line behind : List Char} (hline : '\n' ∉ line)
    (hbehind : Begun behind) {offset : Nat} (number : Nat) {start : Nat} (hle : start ≤ offset)
    (hge : offset ≤ start + Utf8.size line) :
    (place number start (split '\n' (line ++ behind))).filter (·.start ≤ offset) =
      [⟨number, start, line⟩] := by
  have hkeep (rest : List Line) : (⟨number, start, line⟩ :: rest).filter (·.start ≤ offset) =
      ⟨number, start, line⟩ :: rest.filter (·.start ≤ offset) :=
    List.filter_cons_of_pos (decide_eq_true hle)
  rcases hbehind with rfl | hhead
  · rw [List.append_nil, split_of_not_mem hline, place, place, hkeep, List.filter_nil]
  · obtain ⟨rest, rfl⟩ := List.head?_eq_some_iff.1 hhead
    rw [split_append_cons hline, place, hkeep, filter_place_eq_nil (by omega)]

/-- The last line that starts no later than an offset in the line behind `before`. -/
theorem getLast?_filter_place {before line behind : List Char} (hbefore : Ended before)
    (hline : '\n' ∉ line) (hbehind : Begun behind) {offset : Nat} (number start : Nat)
    (hle : start + Utf8.size before ≤ offset)
    (hge : offset ≤ start + Utf8.size before + Utf8.size line) :
    ((place number start (split '\n' (before ++ (line ++ behind)))).filter
        (·.start ≤ offset)).getLast? =
      some ⟨number + before.count '\n', start + Utf8.size before, line⟩ := by
  induction before using line_induction '\n' generalizing number start with
  | last piece h =>
    obtain rfl := hbefore.eq_nil_of_not_mem h
    rw [Utf8.size_nil, Nat.add_zero] at hle hge
    rw [List.nil_append, filter_place_line hline hbehind number hle hge]
    rfl
  | cons piece rest h ih =>
    have hsize : Utf8.size (piece ++ '\n' :: rest) = Utf8.size piece + 1 + Utf8.size rest := by
      have hone : ('\n').utf8Size = 1 := rfl
      rw [Utf8.size_append, Utf8.size_cons, hone, Nat.add_assoc]
    have hcount : (piece ++ '\n' :: rest).count '\n' = rest.count '\n' + 1 := by
      rw [List.count_append, List.count_eq_zero.2 h, List.count_cons_self, Nat.zero_add]
    rw [hsize] at hle hge
    have hlater := ih hbefore.of_append_cons (number + 1) (start + Utf8.size piece + 1) (by omega)
      (by omega)
    have hline' : (⟨number + 1 + rest.count '\n', start + Utf8.size piece + 1 + Utf8.size rest,
        line⟩ : Line) = ⟨number + (piece ++ '\n' :: rest).count '\n',
          start + Utf8.size (piece ++ '\n' :: rest), line⟩ := by
      rw [hcount, hsize, Line.mk.injEq]
      exact ⟨by omega, by omega, rfl⟩
    rw [List.append_assoc, List.cons_append, split_append_cons h, place, List.filter_cons]
    split
    · rw [List.getLast?_cons, hlater, Option.getD_some, hline']
    · rw [hlater, hline']

/-- **The line of an offset.** In a source that is cut around a line, an offset in the line or at
its end is on that line, and the number of the line is counted in front of it. -/
theorem containing_ofSource {before line behind : List Char} (hbefore : Ended before)
    (hline : '\n' ∉ line) (hbehind : Begun behind) {offset : Nat}
    (hle : Utf8.size before ≤ offset) (hge : offset ≤ Utf8.size before + Utf8.size line) :
    containing offset (ofSource (before ++ (line ++ behind))) =
      ⟨1 + before.count '\n', Utf8.size before, line⟩ := by
  rw [← Nat.zero_add (Utf8.size before)] at hle hge
  have hlast := getLast?_filter_place hbefore hline hbehind 1 0 hle hge
  rw [Nat.zero_add] at hlast
  rw [containing, ofSource, List.getLastD_eq_getLast?, hlast, Option.getD_some]

end MonkeyScan.Text.Line
