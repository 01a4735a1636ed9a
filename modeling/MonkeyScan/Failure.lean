import MonkeyScan.Diagnostic
import MonkeyScan.Sink

/-!
# Failures

What can go wrong for a caller of the library: an illegal character that the caller does not
accept, or reading or writing that stopped. The message of a failure ends with that of its cause.
-/

namespace MonkeyScan

inductive Failure where
  | lexical (e : IllegalCharacter)
  | io (f : Fault)
deriving DecidableEq

namespace Failure

def cause : Failure → String
  | lexical e => e.message
  | io f => f.message

def message : Failure → String
  | lexical e => "lexical error: " ++ e.message
  | io f => "i/o error: " ++ f.message

end Failure

end MonkeyScan
