import MonkeyScan.Proofs.Session.WholeText

/-!
# Progress

A call of `Scanner.next` takes the blanks at the front of the text and then, if anything is left, as
many characters as the length of its token says, of which there is at least one
(`exists_of_next`). At the end it takes what blanks there are and gives the end token, and from then
on every call gives the same (`next_of_allBlank`, `behind_of_allBlank`).

`Drains` is the loop that all users of a scanner have: it calls until it is given the end token.
That it ends is a derivation of `Drains`, with the number of calls in it.

**Theorem (`next_progress`).** Both hold in every state that a scanner of a source can come to.
Hence a scan, a report and the answer to a line of a session each come from a loop that ends, after
at most one call for each character that is no blank, and one more.
-/

namespace MonkeyScan

/-- The characters of a text that are no blanks. -/
def solid (cs : List Char) : List Char := cs.filter fun c => !isBlank c

theorem solid_append (cs ds : List Char) : solid (cs ++ ds) = solid cs ++ solid ds :=
  List.filter_append ..

theorem solid_of_forall {cs : List Char} (h : ∀ c ∈ cs, isBlank c = false) : solid cs = cs :=
  List.filter_eq_self.2 fun c hc => by simp [h c hc]

namespace Scanner

/-! ## Single calls -/

/-- The scanner behind so many calls, whatever they give. -/
def behind (s : Scanner) : Nat → Scanner
  | 0 => s
  | n + 1 => s.next.2.behind n

/-- A call in front of a character that is no blank takes the blanks and the text of its token. -/
theorem exists_of_next {s : Scanner} (h : ∃ c ∈ s.rest, isBlank c = false) :
    ∃ x, x ≠ [] ∧ (∀ c ∈ x, isBlank c = false) ∧ s.next.1.isEof = false ∧
      s.next.1.length = x.length ∧ s.rest = s.rest.takeWhile isBlank ++ x ++ s.next.2.rest := by
  have hsplit : s.rest.takeWhile isBlank ++ s.skipBlanks.rest = s.rest := by
    rw [skipBlanks_rest, List.takeWhile_append_dropWhile]
  cases hrest : s.skipBlanks.rest with
  | nil =>
    obtain ⟨c, hc, hblank⟩ := h
    rw [skipBlanks_rest] at hrest
    rw [List.dropWhile_eq_nil_iff.1 hrest c hc] at hblank
    cases hblank
  | cons c cs =>
    have hfront := Lexeme.front_first c cs
    have hc : isBlank c = false := by
      have hhead := List.head?_dropWhile_not isBlank s.rest
      rw [skipBlanks_rest] at hrest
      simpa [hrest] using hhead
    have hnext : s.next = ((Lexeme.first c cs).token s.skipBlanks.position,
        s.skipBlanks.skip (Lexeme.first c cs)) := by
      rw [next, step_of_cons hrest]
      rfl
    rw [hnext]
    refine ⟨(Lexeme.first c cs).chars, List.length_pos_iff.1 (Lexeme.first_chars_length_pos c cs),
      fun d hd => hfront.isBlank_eq_false hc hd, ?_, hfront.length_eq, ?_⟩
    · exact decide_eq_false (Lexeme.first_kind_ne_eof c cs)
    · have htext := Lexeme.first_append_drop c cs
      rw [hrest] at hsplit
      simp only [skip, hrest]
      rw [List.append_assoc, htext, hsplit]

/-- A call in front of nothing but blanks takes them and gives the end token behind them. -/
theorem next_of_allBlank {s : Scanner} (h : AllBlank s.rest) :
    s.next = (Token.atEnd (s.position.advanceAll s.rest), ⟨[], s.position.advanceAll s.rest⟩) := by
  obtain ⟨cs, p⟩ := s
  rw [next, step_blanks h]
  rfl

/-- What is given at the end is given again, and no call moves the scanner any further. -/
theorem behind_of_allBlank {s : Scanner} (h : AllBlank s.rest) :
    s.next.2.next = s.next ∧ ∀ n, s.next.2.behind n = s.next.2 := by
  have hnext := next_of_allBlank h
  have hagain : s.next.2.next = s.next := by
    rw [hnext, next_of_allBlank allBlank_nil]
    rfl
  refine ⟨hagain, fun n => ?_⟩
  induction n with
  | zero => rfl
  | succ n ih => rw [behind, hagain, ih]

/-! ## Loops -/

/-- A loop that begins at a scanner and calls until it is given the end token: how many calls it
makes, the tokens it is given before, and the scanner that it leaves. -/
inductive Drains : Scanner → Nat → List Token → Scanner → Prop
  | atEnd {s : Scanner} : s.next.1.isEof = true → Drains s 1 [] s.next.2
  | token {s s' : Scanner} {n : Nat} {ts : List Token} :
      s.next.1.isEof = false → Drains s.next.2 n ts s' → Drains s (n + 1) (s.next.1 :: ts) s'

/-- Every loop ends, and a run says what it is given. -/
theorem drains_run (s : Scanner) :
    Drains s (s.run.tokens.length + 1) s.run.tokens s.run.after := by
  fun_induction run s with
  | case1 s heof => exact .atEnd heof
  | case2 s heof hlt rest ih => exact .token (Bool.eq_false_iff.2 heof) ih

/-- Every call but the last one takes a character that is no blank. -/
theorem Drains.calls_le {s s' : Scanner} {n : Nat} {ts : List Token} (h : Drains s n ts s') :
    n ≤ (solid s.rest).length + 1 := by
  induction h with
  | atEnd => exact Nat.le_add_left 1 _
  | @token s s' n ts heof _ ih =>
    have hsolid : ∃ c ∈ s.rest, isBlank c = false := by
      by_contra hnone
      have hblank : AllBlank s.rest := fun c hc => by
        by_contra hc'
        exact hnone ⟨c, hc, Bool.eq_false_iff.2 hc'⟩
      rw [next_of_allBlank hblank] at heof
      cases heof
    obtain ⟨x, hne, hx, -, -, hrest⟩ := exists_of_next hsolid
    have hpos := List.length_pos_iff.2 hne
    have hlength := congrArg (fun cs => (solid cs).length) hrest
    simp only [solid_append, solid_of_forall hx, List.length_append] at hlength
    omega

end Scanner

open Scanner

/-- **Progress.** In every state that a scanner comes to, a call in front of a character that is no
blank gives a token and takes the blanks at the front and as many further characters as the token is
long. Any other call takes what is left and gives the end token, and so does every call behind it,
with the same token and the same state.

So the loop of a scan, which makes one more call behind its end, the loop of a report and that of
the answer to a line come to their end, with at most one call more than there are such
characters. -/
theorem next_progress (source : List Char) :
    (∀ n, let s := (ofSource source).behind n
      ((∃ c ∈ s.rest, isBlank c = false) →
        ∃ x, s.next.1.isEof = false ∧ 1 ≤ s.next.1.length ∧ s.next.1.length = x.length ∧
          s.rest = s.rest.takeWhile isBlank ++ x ++ s.next.2.rest) ∧
      ((∀ c ∈ s.rest, isBlank c = true) →
        s.next.1.isEof = true ∧ s.next.1.length = 0 ∧ s.next.2.rest = [] ∧
          ∀ m, s.next.2.behind m = s.next.2 ∧ (s.next.2.behind m).next = s.next)) ∧
    (∃ calls ts s, calls ≤ (solid source).length + 1 ∧ Drains (ofSource source) calls ts s ∧
      scan source = ts ++ [s.next.1] ∧
      ∀ name, (Report.check name source).errors = ts.filterMap IllegalCharacter.ofToken?) ∧
    ∀ line, ∃ calls ts s, calls ≤ (solid (Session.lineText line)).length + 1 ∧
      Drains (ofSource (Session.lineText line)) calls ts s ∧
      ∀ cfg coloursShown, (Session.answer cfg coloursShown line).flatMap Effect.bytes =
        ts.flatMap fun t => Utf8.bytes (cfg.render coloursShown t ++ "\n") := by
  have hloop (text : List Char) := drains_run (ofSource text)
  refine ⟨fun n => ⟨fun hsolid => ?_, fun hblank => ?_⟩,
    ⟨_, _, _, (hloop source).calls_le, hloop source, rfl, fun name => rfl⟩,
    fun line => ⟨_, _, _, (hloop _).calls_le, hloop _, fun cfg coloursShown => ?_⟩⟩
  · obtain ⟨x, hne, -, heof, hlength, hrest⟩ := exists_of_next hsolid
    exact ⟨x, heof, hlength ▸ List.length_pos_iff.2 hne, hlength, hrest⟩
  · have hnext := next_of_allBlank hblank
    obtain ⟨hagain, hstays⟩ := behind_of_allBlank hblank
    refine ⟨by rw [hnext]; rfl, by rw [hnext]; rfl, by rw [hnext], fun m => ?_⟩
    rw [hstays m]
    exact ⟨rfl, hagain⟩
  · exact Session.bytes_answer cfg coloursShown line

end MonkeyScan
