import MonkeyScan.Text.Attached
import MonkeyScan.Text.Ignorable
import MonkeyScan.Text.Wide

/-!
# Columns of a display

How many columns a character takes where it is shown: none for a control character, for one that
a display leaves out and for one that is drawn with a neighbour; two for a wide one; one for every
other. The vowels and final consonants of a Hangul syllable are drawn with its first consonant, and
marks of number, of abbreviation or of a cluster with the characters behind them.

A few letters do not follow from the tables: the filler consonant takes the room of a syllable, the
Tifinagh joiner that of a letter, and two Khmer letters are written out in full.
-/

namespace MonkeyScan.Text

/-- The vowels and final consonants that Hangul syllables are composed with. -/
def hangulJoining : Ranges := [(0x1160, 0x11ff), (0xd7b0, 0xd7c6), (0xd7cb, 0xd7fb)]

/-- The vowels that are compositions of attached signs alone. -/
def composedVowels : Ranges :=
  [(0xcc0, 0xcc0), (0xcc7, 0xcc8), (0xcca, 0xccb), (0x1b3b, 0x1b3b), (0x1b3d, 0x1b3d),
    (0x1b43, 0x1b43)]

/-- The marks that are drawn around or over the characters behind them. -/
def preposed : Ranges :=
  [(0x605, 0x605), (0x70f, 0x70f), (0x890, 0x891), (0x8e2, 0x8e2), (0xd4e, 0xd4e), (0xa8fa, 0xa8fa),
    (0x111c2, 0x111c3), (0x1193f, 0x1193f), (0x11941, 0x11941), (0x11a3a, 0x11a3a),
    (0x11a84, 0x11a89), (0x11f02, 0x11f02)]

/-- The letters whose columns the tables do not give. -/
def exceptionalWidths : List (Char × Nat) :=
  [('\u115f', 2), ('\u17a4', 2), ('\u17d8', 3), ('\u2d7f', 1)]

def isControl (c : Char) : Bool := c.toNat < 0x20 || (0x7f ≤ c.toNat && c.toNat < 0xa0)

/-- Characters without a column of their own. -/
def isColumnless (c : Char) : Bool :=
  isControl c || attached.contains c || ignorable.contains c || hangulJoining.contains c ||
    composedVowels.contains c || preposed.contains c

/-- The columns that `c` takes; a tab has none of its own. -/
def width (c : Char) : Nat :=
  match exceptionalWidths.lookup c with
  | some n => n
  | none => if isColumnless c then 0 else if wide.contains c then 2 else 1

end MonkeyScan.Text
