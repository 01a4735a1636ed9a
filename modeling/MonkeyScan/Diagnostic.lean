import MonkeyScan.Text.Quoted
import MonkeyScan.Token

/-!
# Illegal characters as errors

A scan does not fail: what is no part of a token comes out as a token of its own kind. A reader who
will not go on with such a token makes an `IllegalCharacter` of it, which has a message of one line
and a `Diagnostic` for display next to the source.
-/

namespace MonkeyScan

/-- A message on the bytes of a source from `start` up to, but not including, `stop`, and what is
to be written beside the marks under them. -/
structure Diagnostic where
  message : String
  start : Nat
  stop : Nat
  remark : String
deriving DecidableEq

structure IllegalCharacter where
  char : Char
  position : Position
deriving DecidableEq

namespace IllegalCharacter

/-- The error of an illegal token, from the first character of its literal. -/
def ofToken? (t : Token) : Option IllegalCharacter :=
  if t.isIllegal then t.literal.toList.head?.map (⟨·, t.position⟩) else none

def title (e : IllegalCharacter) : String := "illegal character " ++ Text.quoteChar e.char

def message (e : IllegalCharacter) : String := e.title ++ " at " ++ e.position.text

def diagnostic (e : IllegalCharacter) : Diagnostic where
  message := e.title
  start := e.position.offset
  stop := e.position.offset + e.char.utf8Size
  remark := "not part of any token"

theorem ofToken?_eq_none_of_not_isIllegal {t : Token} (h : t.isIllegal = false) :
    ofToken? t = none := by
  simp [ofToken?, h]

end IllegalCharacter

end MonkeyScan
