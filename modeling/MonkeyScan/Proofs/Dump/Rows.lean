import MonkeyScan.Dump
import MonkeyScan.Proofs.Alphabet
import MonkeyScan.Proofs.Scanner.Tokens
import MonkeyScan.Proofs.Text.ReadBack
import MonkeyScan.Proofs.Text.Split

/-!
# Dumps by rows, read back

A dump by rows writes the literals as they stand. `Row.read?` takes a row for a name, perhaps a
literal in parentheses, and a place, and `Row.readAll` takes every line of a dump for a row.

**Theorem (`readAll_scan`).** The dump of every source is read back as its tokens, of which each has
a line of its own.

A literal with a parenthesis or a line feed would break this. No scan has one: a literal holds
letters, or digits, or the one character outside the alphabet (`not_mem_literal`).
-/

namespace MonkeyScan

namespace Dump

/-! ## The reader -/

/-- What a row shows of a token. -/
structure Row where
  kind : Kind
  literal : String
  line : Nat
  column : Nat
deriving DecidableEq

namespace Row

def ofToken (t : Token) : Row := ⟨t.kind, t.literal, t.position.line, t.position.column⟩

/-- Reads the place at the end of a row, for what is read in front of it. -/
def readPlace? (kind : Kind) (literal : String) : List Char → Option Row
  | ' ' :: '@' :: ' ' :: place =>
    match place.span (· ≠ ':') with
    | (line, ':' :: column) => do
      return ⟨kind, literal, ← Text.numeral? line, ← Text.numeral? column⟩
    | _ => none
  | _ => none

/-- Reads what stands behind the name of a kind: a literal up to a parenthesis, if there is one,
and the place. -/
def readLiteral? (kind : Kind) : List Char → Option Row
  | '(' :: rest =>
    match rest.span (· ≠ ')') with
    | (literal, ')' :: place) => readPlace? kind (String.ofList literal) place
    | _ => none
  | place => readPlace? kind "" place

/-- Reads a row. A name ends at a parenthesis or a blank. -/
def read? (row : List Char) : Option Row :=
  let (name, rest) := row.span fun c => c ≠ '(' ∧ c ≠ ' '
  (Kind.ofName? (String.ofList name)).bind fun kind => readLiteral? kind rest

def readAll (dump : List Char) : Option (List Row) := (Text.lines '\n' dump).mapM read?

/-! ## Rows of tokens -/

theorem readPlace?_listing (kind : Kind) (literal : String) (p : Position) :
    readPlace? kind literal (" @ ".toList ++ p.text.toList) =
      some ⟨kind, literal, p.line, p.column⟩ := by
  have hline : ∀ c ∈ Nat.toDigits 10 p.line, decide (c ≠ ':') = true := by
    intro c hc
    apply decide_eq_true
    rintro rfl
    exact Text.not_mem_toDigits rfl p.line hc
  have hplace : " @ ".toList ++ p.text.toList =
      ' ' :: '@' :: ' ' :: (Nat.toDigits 10 p.line ++ ':' :: Nat.toDigits 10 p.column) := by
    simp [Position.text, Nat.toString_eq_repr]
  rw [hplace, readPlace?, Text.span_append hline (by simp)]
  simp [Text.numeral?_toDigits]

theorem not_mem_name (k : Kind) {c : Char} (hc : c = '(' ∨ c = ' ' ∨ c = '\n') :
    c ∉ k.name.toList := by
  intro hmem
  have hletter := k.isLetter_of_mem_name hmem
  rcases hc with rfl | rfl | rfl <;> cases hletter

/-- What stands behind the name in the row of a token. -/
def behindName (t : Token) : List Char :=
  (if t.literal = "" then [] else '(' :: t.literal.toList ++ [')']) ++
    (" @ ".toList ++ t.position.text.toList)

theorem toList_listing (t : Token) : t.listing.toList = t.kind.name.toList ++ behindName t := by
  by_cases h : t.literal = "" <;> simp [Token.listing, Token.summary, behindName, h]

/-- A literal is read back if no parenthesis ends it too early. -/
theorem readLiteral?_behindName {t : Token} (h : ')' ∉ t.literal.toList) :
    readLiteral? t.kind (behindName t) = some (ofToken t) := by
  by_cases hempty : t.literal = ""
  · have hplace := readPlace?_listing t.kind "" t.position
    rw [behindName, if_pos hempty, ofToken, hempty]
    exact hplace
  · have hplace := readPlace?_listing t.kind t.literal t.position
    have hliteral : ∀ c ∈ t.literal.toList, decide (c ≠ ')') = true := by
      intro c hc
      apply decide_eq_true
      rintro rfl
      exact h hc
    rw [behindName, if_neg hempty, List.cons_append, List.cons_append, List.append_assoc,
      List.singleton_append, readLiteral?, Text.span_append hliteral (by simp)]
    simp only [String.ofList_toList]
    exact hplace

theorem read?_listing {t : Token} (h : ')' ∉ t.literal.toList) :
    read? t.listing.toList = some (ofToken t) := by
  have hname : ∀ c ∈ t.kind.name.toList, decide (c ≠ '(' ∧ c ≠ ' ') = true := by
    intro c hc
    apply decide_eq_true
    refine ⟨?_, ?_⟩
    · rintro rfl
      exact not_mem_name t.kind (.inl rfl) hc
    · rintro rfl
      exact not_mem_name t.kind (.inr (.inl rfl)) hc
  have hend : ∀ c ∈ (behindName t).head?, decide (c ≠ '(' ∧ c ≠ ' ') = false := by
    unfold behindName
    split <;> simp
  have hkind : Kind.ofName? t.kind.name = some t.kind := Kind.ofName?_eq_some_iff.2 rfl
  rw [read?, toList_listing, Text.span_append hname hend]
  simp only [String.ofList_toList, hkind, Option.bind_some]
  exact readLiteral?_behindName h

theorem newline_not_mem_listing {t : Token} (h : '\n' ∉ t.literal.toList) :
    '\n' ∉ t.listing.toList := by
  have hnumber : ∀ n, '\n' ∉ Nat.toDigits 10 n := Text.not_mem_toDigits rfl
  have hname := not_mem_name t.kind (.inr (.inr rfl))
  by_cases hempty : t.literal = "" <;>
    simp [toList_listing, behindName, hempty, hname, h, Position.text, Nat.toString_eq_repr,
      hnumber]

/-! ## Dumps -/

/-- Every row of a dump is a line of its own if no literal has a line feed. -/
theorem lines_text {ts : List Token} (h : ∀ t ∈ ts, '\n' ∉ t.literal.toList) :
    Text.lines '\n' (Dump.text ts) = ts.map fun t => t.listing.toList := by
  induction ts with
  | nil => rfl
  | cons t ts ih =>
    obtain ⟨ht, hts⟩ := List.forall_mem_cons.1 h
    have hcons : Dump.text (t :: ts) = t.listing.toList ++ '\n' :: Dump.text ts := by
      simp [Dump.text]
    rw [hcons, Text.lines_append_cons (newline_not_mem_listing ht), ih hts, List.map_cons]

theorem count_text {ts : List Token} (h : ∀ t ∈ ts, '\n' ∉ t.literal.toList) :
    (Dump.text ts).count '\n' = ts.length := by
  induction ts with
  | nil => rfl
  | cons t ts ih =>
    obtain ⟨ht, hts⟩ := List.forall_mem_cons.1 h
    have hrow : (t.listing.toList ++ ['\n']).count '\n' = 1 := by
      rw [List.count_append, List.count_eq_zero.2 (newline_not_mem_listing ht)]
      rfl
    rw [Dump.text, List.flatMap_cons, List.count_append, hrow, Nat.add_comm]
    exact congrArg (· + 1) (ih hts)

theorem readAll_text {ts : List Token} (hline : ∀ t ∈ ts, '\n' ∉ t.literal.toList)
    (hliteral : ∀ t ∈ ts, ')' ∉ t.literal.toList) :
    readAll (Dump.text ts) = some (ts.map ofToken) := by
  rw [readAll, lines_text hline]
  exact Text.mapM_map_eq_some fun t ht => read?_listing (hliteral t ht)

/-! ## Literals of a scan -/

/-- A literal holds no character of the alphabet but letters and digits. -/
theorem not_mem_literal {source : List Char} {t : Token} (ht : t ∈ scan source) {d : Char}
    (hlegal : isLegal d = true) (hletter : isLetter d = false) (hdigit : isDigit d = false) :
    d ∉ t.literal.toList := by
  rw [scan_eq, List.mem_append, List.mem_singleton] at ht
  rcases ht with ht | rfl
  · obtain ⟨u, c, cs, -, hblank, rfl⟩ := exists_lexeme_of_mem ht
    have hfront := Lexeme.front_first c cs
    have hillegal := hfront.isLegal_or_illegal hblank
    generalize Lexeme.first c cs = l at hfront hillegal ⊢
    cases hfront with
    | keyword k => exact List.not_mem_nil
    | symbol s => exact List.not_mem_nil
    | ident hc => exact not_mem_ofList hc hletter
    | int _ hc => exact not_mem_ofList hc hdigit
    | illegal =>
      obtain ⟨hkind, -⟩ | ⟨-, hc⟩ := hillegal
      · exact absurd rfl hkind
      · show d ∉ (String.ofList [c]).toList
        rw [String.toList_ofList, List.mem_singleton]
        rintro rfl
        rw [hlegal] at hc
        cases hc
  · exact List.not_mem_nil

/-- **Rows.** The dump of a source has a line for each token, the end token among them, and its
lines are read back as the kinds, literals, lines and columns of the tokens. So sources that differ
in one of these have different dumps. -/
theorem readAll_scan (source : List Char) :
    readAll (Dump.render .text (scan source)) = some ((scan source).map ofToken) ∧
    Text.lines '\n' (Dump.render .text (scan source)) =
      (scan source).map (fun t => t.listing.toList) ∧
    (Dump.render .text (scan source)).count '\n' = (scan source).length ∧
    ∀ other, (scan other).map ofToken ≠ (scan source).map ofToken →
      Dump.render .text (scan other) ≠ Dump.render .text (scan source) := by
  have hline : ∀ source, ∀ t ∈ scan source, '\n' ∉ t.literal.toList :=
    fun source t ht => not_mem_literal ht (by decide) (by decide) (by decide)
  have hread (source : List Char) :
      readAll (Dump.render .text (scan source)) = some ((scan source).map ofToken) := by
    apply readAll_text (hline source)
    exact fun t ht => not_mem_literal ht (by decide) (by decide) (by decide)
  refine ⟨hread source, lines_text (hline source), count_text (hline source), ?_⟩
  intro other hne hdump
  apply hne
  rw [← Option.some.injEq, ← hread other, ← hread source, hdump]

end Row

end Dump

end MonkeyScan
