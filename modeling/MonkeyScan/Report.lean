import MonkeyScan.Diagnostic.Layout
import MonkeyScan.Scanner
import MonkeyScan.Sink
import MonkeyScan.Utf8

/-!
# Reports

The illegal characters of one named source, in the order in which they were added. A report is
written to a sink, one diagnostic after the other; writing it does not change it.
-/

namespace MonkeyScan

structure Report where
  name : String
  source : List Char
  errors : List IllegalCharacter
deriving DecidableEq

namespace Report

def empty (name : String) (source : List Char) : Report := ⟨name, source, []⟩

def add (r : Report) (e : IllegalCharacter) : Report := { r with errors := r.errors ++ [e] }

/-- Adds the error of a token, if it is an error. -/
def addToken (r : Report) (t : Token) : Report :=
  match IllegalCharacter.ofToken? t with
  | some e => r.add e
  | none => r

def count (r : Report) : Nat := r.errors.length

def hasErrors (r : Report) : Bool := !r.errors.isEmpty

/-- Scans a source and reports every illegal character in it. -/
def check (name : String) (source : List Char) : Report :=
  ⟨name, source, (Scanner.ofSource source).run.tokens.filterMap IllegalCharacter.ofToken?⟩

/-- The display of each error, in order. -/
def displays (r : Report) (coloured : Bool) : List (List Char) :=
  let lines := Text.Line.ofSource r.source
  r.errors.map fun e => e.diagnostic.render r.name lines coloured

def emit (r : Report) (coloured : Bool) (sink : Sink) : Transcript :=
  sink.perform ((r.displays coloured).map fun cs => .write (Utf8.encode cs))

end Report

end MonkeyScan
