import MonkeyScan.Proofs.Lexeme.Longest
import MonkeyScan.Scanner

/-!
# Runs of characters

**Theorem (`span_stepwise`).** A scanner takes the characters of a class as one piece: it looks for
the byte at which they end, cuts the text there, and works out the place behind the piece from its
characters. The piece is the longest run of the class, the text can always be cut at that byte, and
what is left and its place are as if the characters had been looked at and taken one by one.

`takeEach` is the loop of single characters. It and `span` are compared with the run at the front of
the text: the loop by induction on the text (`takeEach_eq`), the piece by what is known of cuts. The
bytes at which a text can be cut are the places of its string (`isSome_cutAt?_iff`).

Blanks are skipped as such a piece. A word or an integer is a first character that is taken alone,
and such a piece behind it (`step_eq_span`).
-/

namespace MonkeyScan

/-! ## Runs at the front of a text -/

/-- The text `w` is the longest beginning of `cs` in which every character satisfies `p`. -/
structure LongestRun (p : Char → Bool) (w cs : List Char) : Prop where
  atFront : w <+: cs
  all : ∀ c ∈ w, p c = true
  length_le : ∀ v, v <+: cs → (∀ c ∈ v, p c = true) → v.length ≤ w.length

theorem longestRun_takeWhile (p : Char → Bool) (cs : List Char) :
    LongestRun p (cs.takeWhile p) cs where
  atFront := List.takeWhile_prefix p
  all _ := List.mem_takeWhile_imp
  length_le _ := length_le_takeWhile

/-- The lexeme that begins with a letter or a digit is a run of its class. -/
theorem Lexeme.first_chars_of_run {p : Char → Bool} (hp : p = isLetter ∨ p = isDigit) {c : Char}
    (hc : p c = true) (cs : List Char) : (first c cs).chars = c :: cs.takeWhile p := by
  rcases hp with rfl | rfl
  · rw [first_of_isLetter hc]
  · rw [first_of_isDigit hc]

/-! ## Bytes between characters -/

theorem Utf8.utf8ByteSize_ofList (cs : List Char) : (String.ofList cs).utf8ByteSize = size cs := by
  induction cs with
  | nil => rfl
  | cons c cs ih =>
    rw [String.ofList_cons, String.utf8ByteSize_append, String.utf8ByteSize_singleton, ih,
      size_cons]

/-- A text can be cut at the bytes that are places of its string, and at no others. -/
theorem Text.isSome_cutAt?_iff {n : Nat} {cs : List Char} :
    (cutAt? n cs).isSome = true ↔ String.Pos.Raw.IsValid (String.ofList cs) ⟨n⟩ := by
  rw [String.Pos.Raw.isValid_iff_exists_append]
  constructor
  · intro h
    obtain ⟨⟨u, v⟩, hcut⟩ := Option.isSome_iff_exists.1 h
    obtain ⟨rfl, rfl⟩ := cutAt?_eq_some_iff.1 hcut
    refine ⟨String.ofList u, String.ofList v, String.ofList_append, ?_⟩
    rw [String.Pos.Raw.ext_iff, String.byteIdx_rawEndPos, Utf8.utf8ByteSize_ofList]
  · rintro ⟨u, v, hcs, hn⟩
    have hlist : cs = u.toList ++ v.toList := by
      rw [← String.toList_append, ← hcs, String.toList_ofList]
    have hsize : n = Utf8.size u.toList := by
      rw [← Utf8.utf8ByteSize_ofList, String.ofList_toList, ← String.byteIdx_rawEndPos, ← hn]
    rw [cutAt?_eq_some_iff.2 ⟨hlist, hsize⟩]
    rfl

namespace Scanner

/-! ## Single characters -/

theorem bump_of_peek? {s : Scanner} {c : Char} (h : s.peek? = some c) :
    ∃ cs, s.rest = c :: cs ∧ s.bump = (some c, ⟨cs, s.position.advance c⟩) := by
  obtain ⟨cs, hrest⟩ := List.head?_eq_some_iff.1 h
  refine ⟨cs, hrest, ?_⟩
  rw [bump, hrest]

theorem length_bump_lt {s : Scanner} {c : Char} (h : s.peek? = some c) :
    s.bump.2.rest.length < s.rest.length := by
  obtain ⟨cs, hrest, hbump⟩ := bump_of_peek? h
  rw [hbump, hrest]
  exact Nat.lt_succ_self _

/-- The loop that looks at the next character and takes it as long as it satisfies `p`: what was
taken, and the scanner that is left. -/
def takeEach (s : Scanner) (p : Char → Bool) : List Char × Scanner :=
  match h : s.peek? with
  | none => ([], s)
  | some c =>
    if p c then
      have := length_bump_lt h
      let (cs, after) := s.bump.2.takeEach p
      (s.bump.1.toList ++ cs, after)
    else ([], s)
termination_by s.rest.length

theorem takeEach_nil (p : Char → Bool) (q : Position) :
    (⟨[], q⟩ : Scanner).takeEach p = ([], ⟨[], q⟩) := by
  rw [takeEach]
  rfl

theorem takeEach_of_pos {p : Char → Bool} {c : Char} (hc : p c = true) (cs : List Char)
    (q : Position) :
    (⟨c :: cs, q⟩ : Scanner).takeEach p =
      (c :: ((⟨cs, q.advance c⟩ : Scanner).takeEach p).1,
        ((⟨cs, q.advance c⟩ : Scanner).takeEach p).2) := by
  rw [takeEach]
  -- What is seen is `c`, so that only the test of the class is left.
  show (if p c then _ else _) = _
  rw [if_pos hc]
  rfl

theorem takeEach_of_neg {p : Char → Bool} {c : Char} (hc : p c = false) (cs : List Char)
    (q : Position) : (⟨c :: cs, q⟩ : Scanner).takeEach p = ([], ⟨c :: cs, q⟩) := by
  rw [takeEach]
  show (if p c then _ else _) = _
  rw [if_neg (by simp [hc])]

theorem takeEach_eq (p : Char → Bool) (cs : List Char) (q : Position) :
    (⟨cs, q⟩ : Scanner).takeEach p =
      (cs.takeWhile p, ⟨cs.dropWhile p, q.advanceAll (cs.takeWhile p)⟩) := by
  induction cs generalizing q with
  | nil => exact takeEach_nil p q
  | cons c cs ih =>
    by_cases hc : p c = true
    · rw [takeEach_of_pos hc, ih, List.takeWhile_cons_of_pos hc, List.dropWhile_cons_of_pos hc,
        Position.advanceAll_cons]
    · rw [takeEach_of_neg (Bool.eq_false_iff.2 hc), List.takeWhile_cons_of_neg hc,
        List.dropWhile_cons_of_neg hc, Position.advanceAll_nil]

/-! ## Words and integers -/

theorem skip_eq_span {s : Scanner} {p : Char → Bool} {c : Char} {cs : List Char} {l : Lexeme}
    (hrest : s.rest = c :: cs) (hl : l.chars = c :: cs.takeWhile p) :
    s.skip l = (s.bump.2.span p).2 := by
  have hdrop : (cs.takeWhile p ++ cs.dropWhile p).drop (cs.takeWhile p).length = cs.dropWhile p :=
    List.drop_left
  rw [List.takeWhile_append_dropWhile] at hdrop
  rw [span_eq, skip, bump, hrest, hl]
  show (⟨cs.drop (cs.takeWhile p).length, _⟩ : Scanner) = _
  rw [hdrop, Position.advanceAll_cons]

/-- A step in front of a letter or a digit takes it and then all of its class that follow. -/
theorem step_eq_span {s : Scanner} {p : Char → Bool} (hp : p = isLetter ∨ p = isDigit) {c : Char}
    (hpeek : s.skipBlanks.peek? = some c) (hc : p c = true) :
    s.step.token.spelling.toList = c :: (s.skipBlanks.bump.2.span p).1 ∧
      s.step.after = (s.skipBlanks.bump.2.span p).2 := by
  obtain ⟨cs, hrest, hbump⟩ := bump_of_peek? hpeek
  have hchars := Lexeme.first_chars_of_run hp hc cs
  rw [step_of_cons hrest]
  refine ⟨?_, skip_eq_span hrest hchars⟩
  rw [hbump, span_eq]
  exact ((Lexeme.front_first c cs).spelling_token _).trans hchars

/-! ## Pieces and single characters -/

/-- **Runs.** For any class of characters, and for a scanner at any place of any text, what `span`
takes is the longest run of the class, and it leaves what the loop of single characters leaves. The
byte at which it cuts the text is inside no character, and the offset of the scanner grows by the
bytes of what is taken. -/
theorem span_stepwise (s : Scanner) (p : Char → Bool) :
    LongestRun p (s.span p).1 s.rest ∧
    s.span p = s.takeEach p ∧
    String.Pos.Raw.IsValid (String.ofList s.rest) ⟨Text.spanStop p s.rest⟩ ∧
    Text.cutAt? (Text.spanStop p s.rest) s.rest = some ((s.span p).1, (s.span p).2.rest) ∧
    (s.span p).2.position.offset = s.position.offset + Utf8.size (s.span p).1 := by
  have hcut := Text.cutAt?_spanStop p s.rest
  rw [span_eq]
  refine ⟨longestRun_takeWhile p s.rest, (takeEach_eq p s.rest s.position).symm, ?_, hcut, ?_⟩
  · rw [← Text.isSome_cutAt?_iff, hcut]
    rfl
  · exact Position.advanceAll_offset s.position _

example : (⟨"é\n中x ".toList, ⟨3, 7, 20⟩⟩ : Scanner).span (· ≠ 'x') =
    ("é\n中".toList, ⟨"x ".toList, ⟨4, 2, 26⟩⟩) := by
  decide

end Scanner

end MonkeyScan
