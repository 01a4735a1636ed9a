import MonkeyScan.Dump
import MonkeyScan.Proofs.JsonText.Reader

/-!
# JSON dumps, read back

**Theorem (`json_lossless`).** The JSON dump of every list of tokens is a document of the JSON
grammar, and the value that it is read as gives back the tokens. So no two lists have the same dump.

The text of a value is built along the grammar: the rows and the indentation are blanks, a character
is escaped in one of the ways that the grammar has for it (`spelled_escape`), and a number has no
zero in front (`number_toDigits`). Nothing is asked of the tokens; any kind may come with any
literal.
-/

namespace MonkeyScan.Dump

open JsonText

namespace Json

/-! ## Values -/

mutual

/-- The value that the text is for. -/
def value : Json → Value
  | string s => .string s
  | number n => .number n 0
  | array vs => .array (values vs)
  | object fs => .object (fieldValues fs)

def values : List Json → List Value
  | [] => []
  | v :: vs => v.value :: values vs

def fieldValues : List (String × Json) → List (String × Value)
  | [] => []
  | (k, v) :: fs => (k, v.value) :: fieldValues fs

end

theorem values_eq_map (vs : List Json) : values vs = vs.map value := by
  induction vs with
  | nil => rfl
  | cons v vs ih => rw [values, ih, List.map_cons]

/-! ## Texts -/

theorem hexDigit?_digitChar {n : Nat} (h : n < 16) : hexDigit? (Nat.digitChar n) = some n := by
  have hall : ∀ n < 16, hexDigit? (Nat.digitChar n) = some n := by decide
  exact hall n h

/-- A control character is spelled by the four digits of its number. -/
theorem unit_control {n : Nat} (h : n < 0x20) :
    JsonText.Unit n ['0', '0', Nat.digitChar (n / 16), Nat.digitChar (n % 16)] := by
  have hzero : hexDigit? '0' = some 0 := hexDigit?_digitChar (n := 0) (by decide)
  have hunit := Unit.mk hzero hzero (hexDigit?_digitChar (n := n / 16) (by omega))
    (hexDigit?_digitChar (n := n % 16) (by omega))
  have hn : ((0 * 16 + 0) * 16 + n / 16) * 16 + n % 16 = n := by omega
  rwa [hn] at hunit

/-- What is written for a character spells it. -/
theorem spelled_escape (c : Char) : Spelled c (escape c) := by
  unfold escape
  by_cases hquote : c = '"'
  · subst hquote; exact .letter rfl
  by_cases hslash : c = '\\'
  · subst hslash; exact .letter rfl
  by_cases hback : c = '\x08'
  · subst hback; exact .letter rfl
  by_cases hform : c = '\x0c'
  · subst hform; exact .letter rfl
  by_cases hline : c = '\n'
  · subst hline; exact .letter rfl
  by_cases hreturn : c = '\r'
  · subst hreturn; exact .letter rfl
  by_cases htab : c = '\t'
  · subst htab; exact .letter rfl
  rw [if_neg hquote, if_neg hslash, if_neg hback, if_neg hform, if_neg hline, if_neg hreturn,
    if_neg htab]
  by_cases hcontrol : c.toNat < 0x20
  · rw [if_pos hcontrol]
    exact .unit (unit_control hcontrol)
  · rw [if_neg hcontrol]
    apply Spelled.plain
    simpa [isPlain, hquote, hslash] using hcontrol

theorem letters_flatMap (k : List Char) : Letters k (k.flatMap escape) := by
  induction k with
  | nil => exact .nil
  | cons c k ih => exact .cons (spelled_escape c) ih

theorem quoted_quote (s : String) : Quoted s (quote s) := .mk (letters_flatMap s.toList)

theorem number_toDigits (n : Nat) : Number n 0 (Nat.toDigits 10 n) := by
  have hdigits : Digits (Nat.toDigits 10 n) :=
    ⟨Nat.toDigits_ne_nil, fun _ => Text.isDigit_of_mem_toDigits⟩
  have hzero : (Nat.toDigits 10 n).head? = some '0' → Nat.toDigits 10 n = ['0'] := by
    intro h
    rw [Text.head?_toDigits h, Nat.toDigits_zero]
  have hnumber := Number.plain (Magnitude.mk hdigits hzero .absent .absent)
  simpa using hnumber

theorem spaces_nil : Spaces [] := fun _ hc => absurd hc List.not_mem_nil

theorem spaces_singleton {c : Char} (h : isSpace c = true) : Spaces [c] := by
  intro d hd
  rw [List.mem_singleton.1 hd, h]

theorem spaces_newRow (depth : Nat) : Spaces (newRow depth) := by
  intro c hc
  rw [newRow, List.mem_cons, List.mem_replicate] at hc
  rcases hc with rfl | ⟨-, rfl⟩ <;> decide

mutual

/-- A value is written as the grammar has it, at any depth. -/
theorem spells_render (depth : Nat) : (v : Json) → Spells (.value v.value) (v.render depth)
  | string s => .string (quoted_quote s)
  | number n => .number (number_toDigits n)
  | array [] => .noItem spaces_nil
  | array (v :: vs) => by
    have hv := spells_render (depth + 1) v
    have hvs := spells_renderItems (depth + 1) (spaces_newRow depth) vs
    have harray := Spells.array (spaces_newRow (depth + 1)) hv hvs
    simpa [render, values, value] using harray
  | object [] => .noField spaces_nil
  | object ((k, v) :: fs) => by
    have hv := spells_render (depth + 1) v
    have hf := Spells.field (quoted_quote k) spaces_nil (spaces_singleton (c := ' ') rfl) hv
    have hfs := spells_renderFields (depth + 1) (spaces_newRow depth) fs
    have hobject := Spells.object (spaces_newRow (depth + 1)) hf hfs
    simpa [render, fieldValues, value] using hobject

theorem spells_renderItems (depth : Nat) {w : List Char} (hw : Spaces w) :
    (vs : List Json) → Spells (.items (values vs)) (renderItems depth vs ++ (w ++ [']']))
  | [] => .lastItem hw
  | v :: vs => by
    have hv := spells_render depth v
    have hvs := spells_renderItems depth hw vs
    have hitems := Spells.moreItems spaces_nil (spaces_newRow depth) hv hvs
    simpa [renderItems, values] using hitems

theorem spells_renderFields (depth : Nat) {w : List Char} (hw : Spaces w) :
    (fs : List (String × Json)) →
      Spells (.fields (fieldValues fs)) (renderFields depth fs ++ (w ++ ['\x7d']))
  | [] => .lastField hw
  | (k, v) :: fs => by
    have hv := spells_render depth v
    have hf := Spells.field (quoted_quote k) spaces_nil (spaces_singleton (c := ' ') rfl) hv
    have hfs := spells_renderFields depth hw fs
    have hfields := Spells.moreFields spaces_nil (spaces_newRow depth) hf hfs
    simpa [renderFields, fieldValues] using hfields

end

end Json

/-! ## Tokens -/

def position? (v : Value) : Option Position := do
  let line ← (← v.field? "line").natural?
  let column ← (← v.field? "column").natural?
  let offset ← (← v.field? "offset").natural?
  return ⟨line, column, offset⟩

/-- Reads a token, its kind by name. -/
def token? (v : Value) : Option Token := do
  let kind ← Kind.ofName? (← (← v.field? "kind").text?)
  let literal ← (← v.field? "literal").text?
  let position ← position? (← v.field? "position")
  let length ← (← v.field? "length").natural?
  return ⟨kind, literal, position, length⟩

def tokens? : Value → Option (List Token)
  | .array vs => vs.mapM token?
  | _ => none

/-- Every field of a token is found under its name and read back. -/
theorem token?_ofToken (t : Token) : token? (Json.ofToken t).value = some t := by
  have hkind : Kind.ofName? t.kind.name = some t.kind := Kind.ofName?_eq_some_iff.2 rfl
  show (Kind.ofName? t.kind.name).bind
    (fun kind => some (⟨kind, t.literal, t.position, t.length⟩ : Token)) = some t
  rw [hkind]
  rfl

theorem tokens?_value (ts : List Token) :
    tokens? (Json.array (ts.map .ofToken)).value = some ts := by
  have hread : ∀ t ∈ ts, token? ((Json.value ∘ Json.ofToken) t) = some (id t) :=
    fun t _ => token?_ofToken t
  rw [Json.value, Json.values_eq_map, tokens?, List.map_map, Text.mapM_map_eq_some hread,
    List.map_id]

/-! ## Dumps -/

theorem document_json (ts : List Token) :
    Document (Json.array (ts.map .ofToken)).value (Dump.render .json ts) :=
  ⟨[], _, ['\n'], Json.spaces_nil, Json.spells_render 0 _,
    Json.spaces_singleton (by decide), rfl⟩

/-- **JSON dumps.** The dump of any tokens is a document, and the value that it is read as gives
back every token with its kind, literal, place and length. -/
theorem json_lossless :
    (∀ cs v, JsonText.read cs = some v ↔ Document v cs) ∧
    (∀ ts : List Token, ∃ v, Document v (Dump.render .json ts) ∧
      JsonText.read (Dump.render .json ts) = some v ∧ tokens? v = some ts) ∧
    Function.Injective (Dump.render .json) := by
  have hread (ts : List Token) : JsonText.read (Dump.render .json ts) =
      some (Json.array (ts.map .ofToken)).value := read_eq_some_iff.2 (document_json ts)
  refine ⟨fun cs v => read_eq_some_iff, fun ts => ?_, fun ts ts' hdump => ?_⟩
  · exact ⟨_, document_json ts, hread ts, tokens?_value ts⟩
  · rw [← Option.some.injEq, ← tokens?_value ts, ← tokens?_value ts']
    congr 1
    rw [← Option.some.injEq, ← hread ts, ← hread ts', hdump]

end MonkeyScan.Dump
