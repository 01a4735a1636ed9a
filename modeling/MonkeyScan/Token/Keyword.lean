/-!
# Reserved words

The seven words that are no identifiers. A word is looked up in `table`, while the text of a
keyword is its `word`; the two are written apart, and `mem_table_iff` says that they agree. So a
word is reserved exactly as it is spelled (`ofWord?_eq_some_iff`): neither capital letters nor a
longer word will do.
-/

namespace MonkeyScan

/-- Reserved words. -/
inductive Keyword where
  | kwFn | kwLet | kwTrue | kwFalse | kwIf | kwElse | kwReturn
deriving DecidableEq

namespace Keyword

/-- The text of a keyword. -/
def word : Keyword → String
  | kwFn => "fn"
  | kwLet => "let"
  | kwTrue => "true"
  | kwFalse => "false"
  | kwIf => "if"
  | kwElse => "else"
  | kwReturn => "return"

def name : Keyword → String
  | kwFn => "FUNCTION"
  | kwLet => "LET"
  | kwTrue => "TRUE"
  | kwFalse => "FALSE"
  | kwIf => "IF"
  | kwElse => "ELSE"
  | kwReturn => "RETURN"

/-- The reserved words and what they are reserved for, in the order in which they are listed to a
user. -/
def table : List (String × Keyword) :=
  [("fn", kwFn), ("let", kwLet), ("true", kwTrue), ("false", kwFalse), ("if", kwIf),
    ("else", kwElse), ("return", kwReturn)]

def ofWord? (w : String) : Option Keyword := table.lookup w

def all : List Keyword := table.map Prod.snd

/-- A word is reserved for a keyword if it is the text of that keyword. -/
theorem mem_table_iff {w : String} {k : Keyword} : (w, k) ∈ table ↔ k.word = w := by
  constructor
  · intro h
    have hall : ∀ e ∈ table, e.2.word = e.1 := by decide
    exact hall (w, k) h
  · rintro rfl
    cases k <;> decide

@[simp] theorem mem_all (k : Keyword) : k ∈ all :=
  List.mem_map.2 ⟨(k.word, k), mem_table_iff.2 rfl, rfl⟩

theorem word_injective {j k : Keyword} (h : j.word = k.word) : j = k := by
  revert h; cases j <;> cases k <;> decide

theorem ofWord?_eq_some_iff {w : String} {k : Keyword} : ofWord? w = some k ↔ k.word = w := by
  constructor
  · intro h
    obtain ⟨front, behind, htable, -⟩ := List.lookup_eq_some_iff.1 h
    exact mem_table_iff.1 (by simp [htable])
  · rintro rfl
    cases k <;> decide

@[simp] theorem ofWord?_word (k : Keyword) : ofWord? k.word = some k :=
  ofWord?_eq_some_iff.2 rfl

end Keyword

end MonkeyScan
