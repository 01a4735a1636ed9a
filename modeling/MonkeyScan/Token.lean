import MonkeyScan.Position
import MonkeyScan.Token.Kind

/-!
# Tokens

A token is a kind, a literal, the place of its first character and its length in characters. The
literal is kept only where the kind does not settle the text: a symbol or a reserved word has an
empty one, and `Token.spelling` gives the text in either case.
-/

namespace MonkeyScan

structure Token where
  kind : Kind
  literal : String
  position : Position
  length : Nat
deriving DecidableEq

namespace Token

def isEof (t : Token) : Bool := t.kind = .eof

def isIllegal (t : Token) : Bool := t.kind = .illegal

/-- The text of the token in the source. -/
def spelling (t : Token) : String := t.kind.spelling?.getD t.literal

/-- The name of the kind, with a literal that is not empty in parentheses. -/
def summary (t : Token) : String :=
  if t.literal = "" then t.kind.name else t.kind.name ++ "(" ++ t.literal ++ ")"

/-- The summary and the place, as one row of a token listing. -/
def listing (t : Token) : String := t.summary ++ " @ " ++ t.position.text

theorem isEof_iff {t : Token} : t.isEof = true ↔ t.kind = .eof := by simp [isEof]

theorem isIllegal_iff {t : Token} : t.isIllegal = true ↔ t.kind = .illegal := by simp [isIllegal]

end Token

end MonkeyScan
