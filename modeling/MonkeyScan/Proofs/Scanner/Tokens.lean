import Mathlib.Data.List.TakeWhile
import MonkeyScan.Proofs.Lexeme
import MonkeyScan.Scanner

/-!
# The tokens of a text

A run is settled by the text and the place it starts at. `tokensFrom p cs` are the tokens of the
text `cs` that stands at `p`, the end token not among them, and two equations give all of them:
a text of blanks has none (`tokensFrom_blanks`), and a text with a lexeme behind its blanks has
the token of that lexeme and then those of the text behind it (`tokensFrom_lexeme`). Every text is
of one of the two forms, and `text_induction` goes through it one lexeme after the other.

`scan_eq` says that a scan is these tokens and the end token, at the place behind the whole text.
-/

namespace MonkeyScan

/-- A text in which all characters are blanks. -/
def AllBlank (cs : List Char) : Prop := ∀ c ∈ cs, isBlank c = true

theorem allBlank_nil : AllBlank [] := fun _ h => absurd h List.not_mem_nil

theorem allBlank_singleton {c : Char} (h : isBlank c = true) : AllBlank [c] := by
  intro d hd
  rw [List.mem_singleton.1 hd, h]

theorem allBlank_takeWhile (cs : List Char) : AllBlank (cs.takeWhile isBlank) :=
  fun _ h => List.mem_takeWhile_imp h

theorem AllBlank.append {g h : List Char} (hg : AllBlank g) (hh : AllBlank h) :
    AllBlank (g ++ h) := by
  intro c hc
  rcases List.mem_append.1 hc with hc | hc
  · exact hg c hc
  · exact hh c hc

namespace Scanner

/-! ## Single steps -/

theorem skipBlanks_blanks {g : List Char} (hg : AllBlank g) (p : Position) :
    (⟨g, p⟩ : Scanner).skipBlanks = ⟨[], p.advanceAll g⟩ := by
  simp [skipBlanks, span_eq, List.dropWhile_eq_nil_iff.2 hg, List.takeWhile_eq_self_iff.2 hg]

theorem skipBlanks_lexeme {g : List Char} (hg : AllBlank g) {c : Char} (hc : isBlank c = false)
    (cs : List Char) (p : Position) :
    (⟨g ++ c :: cs, p⟩ : Scanner).skipBlanks = ⟨c :: cs, p.advanceAll g⟩ := by
  have hc : ¬ isBlank c = true := by simp [hc]
  simp [skipBlanks, span_eq, List.dropWhile_append_of_pos hg, List.takeWhile_append_of_pos hg,
    List.dropWhile_cons_of_neg hc, List.takeWhile_cons_of_neg hc]

theorem step_blanks {g : List Char} (hg : AllBlank g) (p : Position) :
    (⟨g, p⟩ : Scanner).step = (⟨[], p.advanceAll g⟩ : Scanner).stepAtEnd := by
  have h := skipBlanks_blanks hg p
  rw [step_of_nil (by rw [h]), h]

theorem step_lexeme {g : List Char} (hg : AllBlank g) {c : Char} (hc : isBlank c = false)
    (cs : List Char) (p : Position) :
    (⟨g ++ c :: cs, p⟩ : Scanner).step =
      (⟨c :: cs, p.advanceAll g⟩ : Scanner).stepOver c cs := by
  have h := skipBlanks_lexeme hg hc cs p
  rw [step_of_cons (by rw [h]), h]

/-! ## Texts by lexemes -/

/-- A text is made of blanks, or has a lexeme behind its blanks and a text behind that. -/
theorem text_induction {motive : List Char → Prop}
    (blanks : ∀ g, AllBlank g → motive g)
    (lexeme : ∀ g c cs tail, AllBlank g → isBlank c = false →
      c :: cs = (Lexeme.first c cs).chars ++ tail → motive tail → motive (g ++ c :: cs))
    (text : List Char) : motive text := by
  induction h : text.length using Nat.strongRecOn generalizing text with
  | ind n ih =>
    subst h
    have hsplit : text.takeWhile isBlank ++ text.dropWhile isBlank = text :=
      List.takeWhile_append_dropWhile
    cases hrest : text.dropWhile isBlank with
    | nil =>
      rw [hrest, List.append_nil] at hsplit
      exact hsplit ▸ blanks _ (allBlank_takeWhile text)
    | cons c cs =>
      have hc : isBlank c = false := by
        simpa [hrest] using List.head?_dropWhile_not isBlank text
      rw [hrest] at hsplit
      refine hsplit ▸ lexeme _ c cs _ (allBlank_takeWhile text) hc
        (Lexeme.first_append_drop c cs).symm (ih _ ?_ _ rfl)
      have hpos := Lexeme.first_chars_length_pos c cs
      have hlen := congrArg List.length hsplit
      simp only [List.length_append, List.length_cons] at hlen
      simp only [List.length_drop, List.length_cons]
      omega

end Scanner

/-! ## Tokens -/

/-- The tokens of the text `cs` that stands at `p`, the end token not among them. -/
def tokensFrom (p : Position) (cs : List Char) : List Token := (⟨cs, p⟩ : Scanner).run.tokens

/-- The offset behind a token. -/
def Token.stop (t : Token) : Nat := t.position.offset + Utf8.size t.spelling.toList

/-- The end token at `p`. -/
def Token.atEnd (p : Position) : Token := ⟨.eof, "", p, 0⟩

namespace Scanner

theorem run_blanks {g : List Char} (hg : AllBlank g) (p : Position) :
    (⟨g, p⟩ : Scanner).run = ⟨[], (⟨[], p.advanceAll g⟩ : Scanner).stepAtEnd⟩ := by
  have h := step_blanks hg p
  rw [run_of_isEof (by rw [h]; rfl), h]

theorem run_lexeme {g : List Char} (hg : AllBlank g) {c : Char} (hc : isBlank c = false)
    {cs tail : List Char} (htail : c :: cs = (Lexeme.first c cs).chars ++ tail) (p : Position) :
    (⟨g ++ c :: cs, p⟩ : Scanner).run.steps =
        (⟨c :: cs, p.advanceAll g⟩ : Scanner).stepOver c cs ::
          (⟨tail, p.advanceAll (g ++ (Lexeme.first c cs).chars)⟩ : Scanner).run.steps ∧
      (⟨g ++ c :: cs, p⟩ : Scanner).run.last =
        (⟨tail, p.advanceAll (g ++ (Lexeme.first c cs).chars)⟩ : Scanner).run.last := by
  have hstep := step_lexeme hg hc cs p
  have hafter : (⟨g ++ c :: cs, p⟩ : Scanner).step.after =
      ⟨tail, p.advanceAll (g ++ (Lexeme.first c cs).chars)⟩ := by
    rw [hstep, Position.advanceAll_append]
    simp only [stepOver, skip]
    congr 1
    rw [htail, List.drop_left]
  have heof : (⟨g ++ c :: cs, p⟩ : Scanner).step.token.isEof = false := by
    rw [hstep]
    simpa [Token.isEof, stepOver, Lexeme.token] using Lexeme.first_kind_ne_eof c cs
  rw [run_of_not_isEof heof, hafter, hstep]
  exact ⟨rfl, rfl⟩

/-- A run ends behind the whole text, whatever it began with. -/
theorem run_last (cs : List Char) (p : Position) :
    (⟨cs, p⟩ : Scanner).run.last = (⟨[], p.advanceAll cs⟩ : Scanner).stepAtEnd := by
  induction cs using text_induction generalizing p with
  | blanks g hg => rw [run_blanks hg]
  | lexeme g c cs tail hg hc htail ih =>
    rw [(run_lexeme hg hc htail p).2, ih, ← Position.advanceAll_append, List.append_assoc, ← htail]

end Scanner

theorem tokensFrom_blanks {g : List Char} (hg : AllBlank g) (p : Position) :
    tokensFrom p g = [] := by
  rw [tokensFrom, Scanner.run_blanks hg]
  rfl

theorem tokensFrom_lexeme {g : List Char} (hg : AllBlank g) {c : Char} (hc : isBlank c = false)
    {cs tail : List Char} (htail : c :: cs = (Lexeme.first c cs).chars ++ tail) (p : Position) :
    tokensFrom p (g ++ c :: cs) =
      (Lexeme.first c cs).token (p.advanceAll g) ::
        tokensFrom (p.advanceAll (g ++ (Lexeme.first c cs).chars)) tail := by
  rw [tokensFrom, Scanner.Run.tokens, (Scanner.run_lexeme hg hc htail p).1]
  rfl

/-- A scan gives the tokens of the source and then the end token, behind the whole source. -/
theorem scan_eq (source : List Char) :
    scan source =
      tokensFrom .start source ++ [Token.atEnd (Position.start.advanceAll source)] := by
  have h : (Scanner.ofSource source).run.after =
      ⟨[], Position.start.advanceAll source⟩ := by
    rw [Scanner.ofSource, Scanner.Run.after, Scanner.run_last]
    rfl
  rw [scan, h, Scanner.next, Scanner.step_blanks allBlank_nil]
  rfl

/-- Every token is that of a lexeme which stands behind a part of the text, and begins with no
blank. -/
theorem exists_lexeme_of_mem {p : Position} {text : List Char} {t : Token}
    (h : t ∈ tokensFrom p text) :
    ∃ u c cs, text = u ++ c :: cs ∧ isBlank c = false ∧
      t = (Lexeme.first c cs).token (p.advanceAll u) := by
  induction text using Scanner.text_induction generalizing p with
  | blanks g hg =>
    rw [tokensFrom_blanks hg] at h
    cases h
  | lexeme g c cs tail hg hc htail ih =>
    rw [tokensFrom_lexeme hg hc htail, List.mem_cons] at h
    rcases h with rfl | h
    · exact ⟨g, c, cs, rfl, hc, rfl⟩
    · obtain ⟨u, d, ds, rfl, hd, rfl⟩ := ih h
      refine ⟨g ++ (Lexeme.first c cs).chars ++ u, d, ds, ?_, hd, ?_⟩
      · rw [htail]
        simp only [List.append_assoc]
      · rw [Position.advanceAll_append p (g ++ _)]

theorem not_isEof_of_mem_tokensFrom {p : Position} {cs : List Char} {t : Token}
    (h : t ∈ tokensFrom p cs) : t.kind ≠ .eof := by
  obtain ⟨u, c, cs, -, -, rfl⟩ := exists_lexeme_of_mem h
  exact Lexeme.first_kind_ne_eof c cs

theorem filter_not_isEof_scan (source : List Char) :
    (scan source).filter (fun t => !t.isEof) = tokensFrom .start source := by
  rw [scan_eq, List.filter_append, List.filter_eq_self.2]
  · exact List.append_nil _
  · intro t ht
    have hkind := not_isEof_of_mem_tokensFrom ht
    rw [Token.isEof, Bool.not_eq_true', decide_eq_false_iff_not]
    exact hkind

end MonkeyScan
