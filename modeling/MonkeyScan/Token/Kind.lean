import MonkeyScan.Token.Keyword
import MonkeyScan.Token.Symbol

/-!
# Kinds of token

A token is a symbol, a reserved word, an identifier, an integer or an illegal character; the end
of the source is a kind as well, so that a token list shows where it stopped. Only symbols and
reserved words have a spelling of their own.

`name_injective` says that no two kinds have the same name, so that a name can be read back.
-/

namespace MonkeyScan

/-- What a token is. -/
inductive Kind where
  | illegal
  | eof
  | ident
  | int
  | symbol (s : Symbol)
  | keyword (k : Keyword)
deriving DecidableEq

namespace Kind

/-- The canonical name, under which a kind is printed and read. -/
def name : Kind → String
  | illegal => "ILLEGAL"
  | eof => "EOF"
  | ident => "IDENT"
  | int => "INT"
  | symbol s => s.name
  | keyword k => k.name

/-- The only text that a token of this kind can have, where there is only one. -/
def spelling? : Kind → Option String
  | symbol s => some s.spelling
  | keyword k => some k.word
  | _ => none

def isKeyword : Kind → Bool
  | keyword _ => true
  | _ => false

def all : List Kind :=
  [illegal, eof, ident, int] ++ Symbol.all.map symbol ++ Keyword.all.map keyword

@[simp] theorem mem_all (k : Kind) : k ∈ all := by
  cases k <;> simp [all]

theorem name_injective {j k : Kind} (h : j.name = k.name) : j = k := by
  have key : ∀ j ∈ all, ∀ k ∈ all, j.name = k.name → j = k := by decide +kernel
  exact key j (mem_all j) k (mem_all k) h

def ofName? (w : String) : Option Kind := all.find? fun k => k.name = w

theorem ofName?_eq_some_iff {w : String} {k : Kind} : ofName? w = some k ↔ k.name = w := by
  constructor
  · intro h
    simpa using List.find?_some h
  · rintro rfl
    cases h : ofName? k.name with
    | none => simpa using List.find?_eq_none.1 h k (mem_all k)
    | some j =>
      have hj : j.name = k.name := by simpa using List.find?_some h
      rw [name_injective hj]

/-- The kind of a run of letters: a reserved word, or else an identifier. -/
def ofWord (w : String) : Kind :=
  match Keyword.ofWord? w with
  | some k => keyword k
  | none => ident

@[simp] theorem ofWord_word (k : Keyword) : ofWord k.word = keyword k := by
  simp [ofWord]

theorem ofWord_ne_eof (w : String) : ofWord w ≠ eof := by
  unfold ofWord
  split <;> simp

end Kind

end MonkeyScan
