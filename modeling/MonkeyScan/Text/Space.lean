import MonkeyScan.Text.Ranges
import MonkeyScan.Text.Trim

/-!
# White space

The characters that stand for room between others (Unicode; property White_Space), and a text
without those at its ends. The blanks between tokens are four of them.
-/

namespace MonkeyScan.Text

/-- The characters that are white space. -/
def space : Ranges :=
  [(0x9, 0xd), (0x20, 0x20), (0x85, 0x85), (0xa0, 0xa0), (0x1680, 0x1680), (0x2000, 0x200a),
    (0x2028, 0x2029), (0x202f, 0x202f), (0x205f, 0x205f), (0x3000, 0x3000)]

def isSpace (c : Char) : Bool := space.contains c

/-- The text without white space at its ends. -/
def trim (s : String) : String := String.ofList (trimEnd isSpace (s.toList.dropWhile isSpace))

end MonkeyScan.Text
