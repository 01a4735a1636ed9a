/-!
# Sets of code points

A property of characters is a table of ranges of code points, each with its first and its last
member, in ascending order.
-/

namespace MonkeyScan.Text

/-- A list of ranges, ends included. -/
abbrev Ranges := List (Nat × Nat)

def Ranges.contains (rs : Ranges) (c : Char) : Bool :=
  rs.any fun r => r.1 ≤ c.toNat && c.toNat ≤ r.2

end MonkeyScan.Text
