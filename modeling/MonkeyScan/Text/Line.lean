import MonkeyScan.Text.Split
import MonkeyScan.Utf8

/-!
# Lines of a source

The lines of a text, each with its number from 1 and the offset of its first byte. A line begins
at the start of the text and behind each line feed, which belongs to no line; so a text that ends
with a line feed has an empty last line.
-/

namespace MonkeyScan.Text

structure Line where
  number : Nat
  start : Nat
  chars : List Char
deriving DecidableEq

namespace Line

/-- Gives the lines their numbers and offsets, from those of the first. -/
def place (number start : Nat) : List (List Char) → List Line
  | [] => []
  | chars :: rest => ⟨number, start, chars⟩ :: place (number + 1) (start + Utf8.size chars + 1) rest

def ofSource (cs : List Char) : List Line := place 1 0 (split '\n' cs)

/-- The line that byte `offset` is on: the last one that starts at it or before. -/
def containing (offset : Nat) (ls : List Line) : Line :=
  (ls.filter (·.start ≤ offset)).getLastD ⟨1, 0, []⟩

end Line

end MonkeyScan.Text
