import MonkeyScan.Proofs.Lexeme.Longest
import MonkeyScan.Proofs.Scanner.Tokens
import MonkeyScan.Proofs.Utf8

/-!
# Scanning is longest match

`Reads cs ps` says how a text is to be cut into pieces, with no scanner: blanks are dropped, and
then the longest lexeme is taken and classified, or one illegal character where no lexeme begins,
until only blanks are left. A piece has the characters it was read from. Those of a token are
found in the source by its offset and its length (`Token.text?`).

**Theorem (`scan_longest_match`).** The tokens of a scan are the pieces of the source, and there is
no other way to cut it.
-/

namespace MonkeyScan

/-- A part of a text, with what a scanner has to say of it. -/
structure Piece where
  kind : Kind
  literal : String
  chars : List Char

/-- The text `cs` is cut into the pieces `ps`. -/
inductive Reads : List Char → List Piece → Prop
  | atEnd {cs : List Char} : cs.dropWhile isBlank = [] → Reads cs [⟨.eof, "", []⟩]
  | lexeme {cs w tail : List Char} {k : Kind} {l : String} {ps : List Piece} :
      cs.dropWhile isBlank = w ++ tail → Longest w (w ++ tail) → Classified w k l →
      Reads tail ps → Reads cs (⟨k, l, w⟩ :: ps)
  | illegal {cs tail : List Char} {c : Char} {ps : List Piece} :
      cs.dropWhile isBlank = c :: tail → (∀ v, v <+: c :: tail → ¬ IsLexeme v) →
      Reads tail ps → Reads cs (⟨.illegal, String.ofList [c], [c]⟩ :: ps)

/-- A text can be cut in one way only. -/
theorem Reads.unique {cs : List Char} {ps qs : List Piece} (hp : Reads cs ps)
    (hq : Reads cs qs) : ps = qs := by
  induction hp generalizing qs with
  | atEnd h =>
    cases hq with
    | atEnd => rfl
    | lexeme h' hw =>
      rw [h] at h'
      exact absurd (List.append_eq_nil_iff.1 h'.symm).1 hw.isLexeme.ne_nil
    | illegal h' => rw [h] at h'; cases h'
  | @lexeme cs w tail k l ps h hw hk _ ih =>
    cases hq with
    | atEnd h' =>
      rw [h] at h'
      exact absurd (List.append_eq_nil_iff.1 h').1 hw.isLexeme.ne_nil
    | @lexeme _ w' tail' k' l' ps' h' hw' hk' ht' =>
      rw [h] at h'
      rw [← h'] at hw'
      cases hw.unique hw'
      cases List.append_cancel_left h'
      obtain ⟨rfl, rfl⟩ := hk.unique hk'
      rw [ih ht']
    | illegal h' hn => exact absurd hw.isLexeme (hn w (h' ▸ h ▸ hw.atFront))
  | illegal h hn _ ih =>
    cases hq with
    | atEnd h' => rw [h] at h'; cases h'
    | lexeme h' hw => exact absurd hw.isLexeme (hn _ (h ▸ h' ▸ hw.atFront))
    | illegal h' _ ht' =>
      rw [h] at h'
      cases h'
      rw [ih ht']

/-! ## Tokens as pieces -/

/-- The characters of a token in its source, if it begins between two characters there and is no
longer than what follows. -/
def Token.text? (source : List Char) (t : Token) : Option (List Char) :=
  match Utf8.dropBytes? t.position.offset source with
  | some cs => if t.length ≤ cs.length then some (cs.take t.length) else none
  | none => none

def Token.piece? (source : List Char) (t : Token) : Option Piece :=
  (t.text? source).map fun w => ⟨t.kind, t.literal, w⟩

theorem Token.text?_of_append {u w v : List Char} {t : Token}
    (ho : t.position.offset = Utf8.size u) (hl : t.length = w.length) :
    t.text? (u ++ (w ++ v)) = some w := by
  simp [text?, ho, hl, Utf8.dropBytes?_size_append]

/-- A token of a lexeme is the piece of that lexeme. -/
theorem Lexeme.Front.piece?_token {c : Char} {cs tail u : List Char} {l : Lexeme}
    (h : Front c cs l) (htail : c :: cs = l.chars ++ tail) :
    (l.token (Position.start.advanceAll u)).piece? (u ++ c :: cs) =
      some ⟨l.kind, l.literal, l.chars⟩ := by
  have ho : (l.token (Position.start.advanceAll u)).position.offset = Utf8.size u := by
    simp [Lexeme.token, Position.advanceAll_offset, Position.start]
  rw [Token.piece?, htail, Token.text?_of_append ho h.length_eq]
  rfl

/-- The step of the proof: what is read behind a lexeme is read behind what is left of it. -/
theorem Lexeme.Front.reads {c : Char} {cs tail g : List Char} {l : Lexeme} (h : Front c cs l)
    (hg : AllBlank g) (hc : isBlank c = false) (htail : c :: cs = l.chars ++ tail)
    {ps : List Piece} (hps : Reads tail ps) :
    Reads (g ++ c :: cs) (⟨l.kind, l.literal, l.chars⟩ :: ps) := by
  have hdrop : (g ++ c :: cs).dropWhile isBlank = c :: cs := by
    rw [List.dropWhile_append_of_pos hg, List.dropWhile_cons_of_neg (by simp [hc])]
  rcases h.longest_or_illegal with ⟨hw, hk⟩ | ⟨rfl, hn⟩
  · rw [htail] at hw
    exact .lexeme (hdrop.trans htail) hw hk hps
  · cases htail
    exact .illegal hdrop hn hps

/-- The text behind `u` is read as the tokens of the text behind `u`. -/
theorem exists_reads (u cs : List Char) :
    ∃ ps, Reads cs ps ∧
      (tokensFrom (Position.start.advanceAll u) cs ++
        [Token.atEnd (Position.start.advanceAll (u ++ cs))]).map (Token.piece? (u ++ cs)) =
      ps.map some := by
  induction cs using Scanner.text_induction generalizing u with
  | blanks g hg =>
    refine ⟨_, .atEnd (List.dropWhile_eq_nil_iff.2 hg), ?_⟩
    have ho : (Token.atEnd (Position.start.advanceAll (u ++ g))).position.offset =
        Utf8.size (u ++ g) := by
      simp [Token.atEnd, Position.advanceAll_offset, Position.start]
    have ht := Token.text?_of_append (w := []) (v := []) ho rfl
    rw [List.append_nil, List.append_nil] at ht
    rw [tokensFrom_blanks hg]
    simp only [List.nil_append, List.map_cons, List.map_nil, Token.piece?, ht]
    rfl
  | lexeme g c cs tail hg hc htail ih =>
    have hfront := Lexeme.front_first c cs
    obtain ⟨ps, hps, htokens⟩ := ih (u ++ (g ++ (Lexeme.first c cs).chars))
    have hu : u ++ (g ++ (Lexeme.first c cs).chars) ++ tail = u ++ (g ++ c :: cs) := by
      rw [htail]
      simp only [List.append_assoc]
    rw [hu] at htokens
    refine ⟨_, hfront.reads hg hc htail hps, ?_⟩
    have hpiece := hfront.piece?_token (u := u ++ g) htail
    rw [List.append_assoc, Position.advanceAll_append] at hpiece
    rw [tokensFrom_lexeme hg hc htail, List.cons_append, List.map_cons, List.map_cons, hpiece,
      ← Position.advanceAll_append, htokens]

/-- **Longest match.** The tokens of a source, each with the characters that it covers, are the
pieces that the source is cut into, and it cannot be cut into any others. -/
theorem scan_longest_match (source : List Char) :
    ∃ ps, (scan source).map (Token.piece? source) = ps.map some ∧
      ∀ qs, Reads source qs ↔ qs = ps := by
  obtain ⟨ps, hps, htokens⟩ := exists_reads [] source
  rw [List.nil_append, Position.advanceAll_nil, ← scan_eq] at htokens
  refine ⟨ps, htokens, fun qs => ?_⟩
  constructor
  · intro hqs
    exact hqs.unique hps
  · rintro rfl
    exact hps

end MonkeyScan
