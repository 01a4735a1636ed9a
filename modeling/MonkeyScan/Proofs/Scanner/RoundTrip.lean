import Mathlib.Data.List.Chain
import MonkeyScan.Proofs.Alphabet
import MonkeyScan.Proofs.Lexeme.Longest
import MonkeyScan.Proofs.Scanner.Seam

/-!
# Printing and scanning

A token is printed as its spelling, and behind it comes a gap of blanks. Most tokens need none:
only two words, two integers, or an equals sign behind a symbol that it would complete are read as
one when nothing stands between them (`Kind.Fuses`).

**Theorem (`scan_print_iff`).** A list of kinds and literals that is printed and scanned comes out
as it was if and only if there is a gap between every two neighbours that would fuse.

A well-formed content is the lexeme of its own text (`WellFormed.exists_first`), and the text
behind it begins with a character that it takes more of exactly where it fuses with its neighbour
and no gap stands between (`Item.exists_takesMore_iff`). Where it does not, the item is read as
printed (`Item.content_tokensFrom`); where it does, the lexeme is longer, and so is the text of its
token (`Item.content_tokensFrom_ne`).
-/

namespace MonkeyScan

/-! ## Neighbours -/

/-- The kinds that are read from a run of letters. -/
def Kind.IsWord (k : Kind) : Prop := k = .ident ∨ ∃ w, k = .keyword w

/-- Tokens of these kinds are read as one if nothing stands between them. -/
def Kind.Fuses (j k : Kind) : Prop :=
  (j.IsWord ∧ k.IsWord) ∨ (j = .int ∧ k = .int) ∨
    ((j = .symbol .assign ∨ j = .symbol .bang) ∧ (k = .symbol .assign ∨ k = .symbol .eq))

theorem Symbol.head?_spelling_eq_iff (s : Symbol) :
    s.spelling.toList.head? = some '=' ↔ s = .assign ∨ s = .eq := by
  cases s <;> decide

namespace Lexeme.Front

variable {c : Char} {cs : List Char} {l : Lexeme}

theorem isLetter_iff (h : Front c cs l) : isLetter c = true ↔ l.kind.IsWord := by
  cases h with
  | keyword k hl _ => simp [hl, Kind.IsWord]
  | ident hl _ => simp [hl, Kind.IsWord]
  | int hl _ => simp [hl, Kind.IsWord]
  | symbol s hl _ _ => simp [hl, Kind.IsWord]
  | illegal hl _ _ => simp [hl, Kind.IsWord]

theorem isDigit_iff (h : Front c cs l) : isDigit c = true ↔ l.kind = .int := by
  cases h with
  | keyword k hl _ => simp [isDigit_eq_false_of_isLetter hl]
  | ident hl _ => simp [isDigit_eq_false_of_isLetter hl]
  | int _ hn => simp [hn]
  | symbol s _ hn _ => simp [hn]
  | illegal _ hn _ => simp [hn]

theorem eq_equals_iff (h : Front c cs l) :
    c = '=' ↔ l.kind = .symbol .assign ∨ l.kind = .symbol .eq := by
  cases h with
  | keyword k hl _ =>
    have hc : c ≠ '=' := by rintro rfl; revert hl; decide
    simp [hc]
  | ident hl _ =>
    have hc : c ≠ '=' := by rintro rfl; revert hl; decide
    simp [hc]
  | int _ hn =>
    have hc : c ≠ '=' := by rintro rfl; revert hn; decide
    simp [hc]
  | symbol s _ _ hs =>
    obtain ⟨tail, hspelling, -⟩ := Lexeme.spelling_of_atFront? hs
    have hhead := s.head?_spelling_eq_iff
    rw [hspelling, List.head?_cons, Option.some.injEq] at hhead
    simp [hhead]
  | illegal _ _ hs =>
    have hc : c ≠ '=' := by
      rintro rfl
      cases Symbol.ofChar?_of_atFront?_eq_none hs
    simp [hc]

/-- Of two lexemes, the first takes more of the second exactly if their kinds fuse. -/
theorem takesMore_head_iff (h : Front c cs l) {d : Char} {ds : List Char} {m : Lexeme}
    (h' : Front d ds m) : l.kind.takesMore d = true ↔ l.kind.Fuses m.kind := by
  rw [h.takesMore_iff, h.isLetter_iff, h.isDigit_iff, h'.isLetter_iff, h'.isDigit_iff,
    h'.eq_equals_iff]
  rfl

end Lexeme.Front

/-! ## What is printed -/

/-- What a token is, wherever it stands. -/
structure Content where
  kind : Kind
  literal : String
deriving DecidableEq

def Token.content (t : Token) : Content := ⟨t.kind, t.literal⟩

namespace Content

/-- The spelling of the kind, or else the literal. -/
def text (x : Content) : List Char := (x.kind.spelling?.getD x.literal).toList

theorem text_content (t : Token) : t.content.text = t.spelling.toList := rfl

/-- The kinds with the literals that go with them; the end of a text is not printed. -/
inductive WellFormed : Content → Prop
  | fixed {k : Kind} {w : String} : k.spelling? = some w → WellFormed ⟨k, ""⟩
  | ident {w : List Char} : IsWord w → (∀ k : Keyword, k.word.toList ≠ w) →
      WellFormed ⟨.ident, String.ofList w⟩
  | int {w : List Char} : IsNumeral w → WellFormed ⟨.int, String.ofList w⟩
  | illegal {c : Char} : c ∉ alphabet → WellFormed ⟨.illegal, String.ofList [c]⟩

end Content

/-- A text of blanks. -/
structure Gap where
  chars : List Char
  allBlank : AllBlank chars

/-- A content with the gap behind it. -/
structure Item where
  content : Content
  gap : Gap
  wellFormed : content.WellFormed

/-- There is a gap between two neighbours if they would fuse without. -/
def Item.Apart (x y : Item) : Prop :=
  x.content.kind.Fuses y.content.kind → x.gap.chars ≠ []

/-- The text of a list of items behind a first gap. -/
def print (g : Gap) (xs : List Item) : List Char :=
  g.chars ++ xs.flatMap fun x => x.content.text ++ x.gap.chars

theorem print_nil (g : Gap) : print g [] = g.chars := List.append_nil _

theorem print_cons (g : Gap) (x : Item) (xs : List Item) :
    print g (x :: xs) = g.chars ++ x.content.text ++ print x.gap xs := by
  simp [print]

/-! ## Well-formed contents as lexemes -/

theorem Symbol.first_spelling (s : Symbol) :
    ∃ c cs, s.spelling.toList = c :: cs ∧ isBlank c = false ∧
      Lexeme.first c cs = ⟨.symbol s, c :: cs, s.spelling.length⟩ := by
  cases s <;> exact ⟨_, _, rfl, by decide, by decide⟩

/-- A run of letters is the lexeme of its own text. -/
theorem first_of_isWord {c : Char} {cs : List Char} (h : IsWord (c :: cs)) :
    Lexeme.first c cs = ⟨.ofWord (String.ofList (c :: cs)), c :: cs, Utf8.size (c :: cs)⟩ := by
  have hcs : cs.takeWhile isLetter = cs :=
    List.takeWhile_eq_self_iff.2 fun d hd => h.2 d (List.mem_cons_of_mem c hd)
  rw [Lexeme.first_of_isLetter (h.2 c List.mem_cons_self), hcs]

theorem first_of_isNumeral {c : Char} {cs : List Char} (h : IsNumeral (c :: cs)) :
    Lexeme.first c cs = ⟨.int, c :: cs, Utf8.size (c :: cs)⟩ := by
  have hcs : cs.takeWhile isDigit = cs :=
    List.takeWhile_eq_self_iff.2 fun d hd => h.2 d (List.mem_cons_of_mem c hd)
  rw [Lexeme.first_of_isDigit (h.2 c List.mem_cons_self), hcs]

theorem first_of_not_mem_alphabet {c : Char} (h : c ∉ alphabet) (cs : List Char) :
    isBlank c = false ∧ Lexeme.first c cs = ⟨.illegal, [c], 1⟩ := by
  have hlegal := isLegal_eq_false_iff.2 h
  have hblank : isBlank c = false := by
    cases hb : isBlank c with
    | false => rfl
    | true => rw [isLegal_of_isBlank hb] at hlegal; cases hlegal
  obtain ⟨tail, hchars, -⟩ := Lexeme.first_chars c cs
  rcases (Lexeme.front_first c cs).isLegal_or_illegal hblank with ⟨-, hall⟩ | ⟨hfirst, -⟩
  · rw [hall c (by simp [hchars])] at hlegal
    cases hlegal
  · exact ⟨hblank, hfirst⟩

theorem Kind.ofWord_of_forall_ne {w : List Char} (h : ∀ k : Keyword, k.word.toList ≠ w) :
    ofWord (String.ofList w) = .ident := by
  unfold ofWord
  cases hk : Keyword.ofWord? (String.ofList w) with
  | none => rfl
  | some k => exact absurd (by rw [Keyword.ofWord?_eq_some_iff.1 hk, String.toList_ofList]) (h k)

/-- A well-formed content is the lexeme of its own text. -/
theorem Content.WellFormed.exists_first {x : Content} (h : x.WellFormed) :
    ∃ c cs n, x.text = c :: cs ∧ isBlank c = false ∧ Lexeme.first c cs = ⟨x.kind, c :: cs, n⟩ ∧
      ∀ p, ((Lexeme.first c cs).token p).content = x := by
  cases h with
  | @fixed k w hk =>
    cases k with
    | symbol s =>
      obtain ⟨c, cs, htext, hc, hfirst⟩ := s.first_spelling
      exact ⟨c, cs, _, htext, hc, hfirst, fun p => by rw [hfirst]; rfl⟩
    | keyword k =>
      have hword := k.isWord_word
      obtain ⟨c, cs, htext⟩ := List.exists_cons_of_ne_nil hword.1
      rw [htext] at hword
      have hfirst := first_of_isWord hword
      rw [← htext, String.ofList_toList, Kind.ofWord_word, htext] at hfirst
      exact ⟨c, cs, _, htext, isBlank_eq_false_of_isLetter (hword.2 c List.mem_cons_self), hfirst,
        fun p => by rw [hfirst]; rfl⟩
    | illegal | eof | ident | int => cases hk
  | @ident w hword hne =>
    obtain ⟨c, cs, rfl⟩ := List.exists_cons_of_ne_nil hword.1
    have hfirst := first_of_isWord hword
    rw [Kind.ofWord_of_forall_ne hne] at hfirst
    exact ⟨c, cs, _, String.toList_ofList,
      isBlank_eq_false_of_isLetter (hword.2 c List.mem_cons_self), hfirst,
      fun p => by rw [hfirst]; rfl⟩
  | @int w hnumeral =>
    obtain ⟨c, cs, rfl⟩ := List.exists_cons_of_ne_nil hnumeral.1
    have hfirst := first_of_isNumeral hnumeral
    exact ⟨c, cs, _, String.toList_ofList,
      isBlank_eq_false_of_isDigit (hnumeral.2 c List.mem_cons_self), hfirst,
      fun p => by rw [hfirst]; rfl⟩
  | @illegal c hc =>
    obtain ⟨hblank, hfirst⟩ := first_of_not_mem_alphabet hc []
    exact ⟨c, [], _, String.toList_ofList, hblank, hfirst, fun p => by rw [hfirst]; rfl⟩

/-! ## The round trip -/

/-- What follows an item is taken with it exactly if the item is not apart from its neighbour. -/
theorem Item.exists_takesMore_iff (x : Item) (xs : List Item) :
    (∃ d, (print x.gap xs).head? = some d ∧ x.content.kind.takesMore d = true) ↔
      ∃ y, xs.head? = some y ∧ ¬ x.Apart y := by
  obtain ⟨c, cs, n, -, -, hfirst, -⟩ := x.wellFormed.exists_first
  have hx := Lexeme.front_first c cs
  rw [hfirst] at hx
  cases hgap : x.gap.chars with
  | cons e es =>
    have he : isBlank e = true := x.gap.allBlank e (by simp [hgap])
    simp [print, hgap, Kind.takesMore_of_isBlank _ he, Apart]
  | nil =>
    cases xs with
    | nil => simp [print, hgap]
    | cons y ys =>
      obtain ⟨d, ds, m, htext, -, hfirst', -⟩ := y.wellFormed.exists_first
      have hy := Lexeme.front_first d ds
      rw [hfirst'] at hy
      simp [print_cons, hgap, htext, Apart, hx.takesMore_head_iff hy]

/-- An item that takes nothing of what follows it is read as printed. -/
theorem Item.content_tokensFrom (x : Item) (g : Gap) {r : List Char}
    (h : ∀ d ∈ r.head?, x.content.kind.takesMore d = false) (p : Position) :
    (tokensFrom p (g.chars ++ x.content.text ++ r)).map Token.content =
      x.content :: (tokensFrom (p.advanceAll (g.chars ++ x.content.text)) r).map Token.content := by
  obtain ⟨c, cs, n, htext, hc, hfirst, hcontent⟩ := x.wellFormed.exists_first
  have hwhole : c :: cs = (Lexeme.first c cs).chars ++ [] := by rw [hfirst, List.append_nil]
  have hseam : ∀ d ∈ r.head?, (Lexeme.first c cs).kind.takesMore d = false := by
    rw [hfirst]
    exact h
  rw [htext, tokensFrom_lexeme_append g.allBlank hc hwhole (fun _ => hseam), List.map_cons,
    hcontent, hfirst, List.nil_append]

/-- An item that takes more of what follows it is read as something longer. -/
theorem Item.content_tokensFrom_ne (x : Item) (g : Gap) {r : List Char} {d : Char}
    (hd : r.head? = some d) (hmore : x.content.kind.takesMore d = true) (p : Position)
    (ys : List Content) :
    (tokensFrom p (g.chars ++ x.content.text ++ r)).map Token.content ≠ x.content :: ys := by
  obtain ⟨c, cs, n, htext, hc, hfirst, -⟩ := x.wellFormed.exists_first
  obtain ⟨ds, rfl⟩ := List.head?_eq_some_iff.1 hd
  have htokens := tokensFrom_lexeme g.allBlank hc
    (Lexeme.first_append_drop c (cs ++ d :: ds)).symm p
  intro heq
  rw [htext, List.append_assoc, List.cons_append, htokens, List.map_cons] at heq
  have hchars := congrArg Content.text (List.cons.inj heq).1
  rw [Content.text_content, (Lexeme.front_first c (cs ++ d :: ds)).spelling_token,
    htext] at hchars
  have hlt := Lexeme.length_lt_of_takesMore (by rw [hfirst]) (by rw [hfirst]; exact hmore) ds
  rw [hchars] at hlt
  exact Nat.lt_irrefl _ hlt

theorem content_tokensFrom_print_iff (p : Position) (g : Gap) (xs : List Item) :
    (tokensFrom p (print g xs)).map Token.content = xs.map Item.content ↔
      xs.IsChain Item.Apart := by
  induction xs generalizing p g with
  | nil => simp [print_nil, tokensFrom_blanks g.allBlank]
  | cons x xs ih =>
    have hseam := x.exists_takesMore_iff xs
    rw [List.isChain_cons, print_cons, List.map_cons]
    by_cases hmore : ∃ d, (print x.gap xs).head? = some d ∧ x.content.kind.takesMore d = true
    -- The first item fuses with its neighbour, and neither side holds.
    · obtain ⟨y, hy, hapart⟩ := hseam.1 hmore
      obtain ⟨d, hd, htakes⟩ := hmore
      constructor
      · intro heq
        exact absurd heq (x.content_tokensFrom_ne g hd htakes p _)
      · rintro ⟨hall, -⟩
        exact absurd (hall y hy) hapart
    -- It is read as printed, and both sides are those of the items behind it.
    · have hnone : ∀ d ∈ (print x.gap xs).head?, x.content.kind.takesMore d = false := by
        intro d hd
        rw [← Bool.not_eq_true]
        exact fun htakes => hmore ⟨d, hd, htakes⟩
      have hall : ∀ y ∈ xs.head?, x.Apart y := by
        intro y hy
        by_contra hapart
        exact hmore (hseam.2 ⟨y, hy, hapart⟩)
      rw [x.content_tokensFrom g hnone, List.cons_inj_right, ih]
      exact ⟨fun h => ⟨hall, h⟩, fun h => h.2⟩

/-- **Round trip.** Printed contents are scanned as they were if and only if there is a gap
between every two neighbours that would fuse. -/
theorem scan_print_iff (g : Gap) (xs : List Item) :
    (scan (print g xs)).dropLast.map Token.content = xs.map Item.content ↔
      xs.IsChain Item.Apart := by
  rw [scan_eq, List.dropLast_concat]
  exact content_tokensFrom_print_iff .start g xs

def Gap.empty : Gap := ⟨[], allBlank_nil⟩

def Gap.space : Gap := ⟨[' '], allBlank_singleton rfl⟩

/-- An identifier, two symbols with the gap `g` between them, an integer and an illegal character,
with no other gaps. -/
def equalsItems (g : Gap) : List Item :=
  have hword : IsWord ['x'] := ⟨List.cons_ne_nil _ _, List.all_eq_true.1 rfl⟩
  have hnumeral : IsNumeral ['1', '2'] := ⟨List.cons_ne_nil _ _, List.all_eq_true.1 rfl⟩
  [⟨⟨.ident, "x"⟩, .empty, .ident hword fun k => by cases k <;> decide⟩,
    ⟨⟨.symbol .assign, ""⟩, g, .fixed rfl⟩,
    ⟨⟨.symbol .eq, ""⟩, .empty, .fixed rfl⟩,
    ⟨⟨.int, "12"⟩, .empty, .int hnumeral⟩,
    ⟨⟨.illegal, "@"⟩, .empty, .illegal (c := '@') (by decide)⟩]

theorem isChain_apart_equalsItems (g : Gap) :
    (equalsItems g).IsChain Item.Apart ↔ g.chars ≠ [] := by
  simp [equalsItems, Item.Apart, Kind.Fuses, Kind.IsWord]

/-- Of the gaps in `x= ==12@` only the one between the two symbols is needed. -/
theorem scan_print_iff_at_equals :
    (scan "x= ==12@".toList).dropLast.map Token.content = (equalsItems .space).map Item.content ∧
      (scan "x===12@".toList).dropLast.map Token.content ≠
        (equalsItems .empty).map Item.content := by
  have hspace := scan_print_iff .empty (equalsItems .space)
  have hempty := scan_print_iff .empty (equalsItems .empty)
  rw [isChain_apart_equalsItems] at hspace hempty
  exact ⟨hspace.2 (List.cons_ne_nil ' ' []), fun heq => hempty.1 heq rfl⟩

end MonkeyScan
