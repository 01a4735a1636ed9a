/-!
# JSON texts

The JSON values that a dump is made of, and their text: two blanks of indentation a level, each
item of an array and each field of an object on a row of its own, and nothing between the brackets
of an empty one. In a string only quotes, backslashes and control characters below the space are
escaped, by a letter where JSON has one.
-/

namespace MonkeyScan.Dump

inductive Json where
  | string (s : String)
  | number (n : Nat)
  | array (items : List Json)
  | object (fields : List (String × Json))

namespace Json

/-- How a character is written between the quotes of a string. -/
def escape (c : Char) : List Char :=
  if c = '"' then ['\\', '"']
  else if c = '\\' then ['\\', '\\']
  else if c = '\x08' then ['\\', 'b']
  else if c = '\x0c' then ['\\', 'f']
  else if c = '\n' then ['\\', 'n']
  else if c = '\r' then ['\\', 'r']
  else if c = '\t' then ['\\', 't']
  else if c.toNat < 0x20 then
    ['\\', 'u', '0', '0', Nat.digitChar (c.toNat / 16), Nat.digitChar (c.toNat % 16)]
  else [c]

def quote (s : String) : List Char := ['"'] ++ s.toList.flatMap escape ++ ['"']

/-- The end of a row and the indentation of the next. -/
def newRow (depth : Nat) : List Char := '\n' :: List.replicate (2 * depth) ' '

mutual

/-- The text of a value whose first row is already indented to `depth`. -/
def render (depth : Nat) : Json → List Char
  | string s => quote s
  | number n => Nat.toDigits 10 n
  | array [] => ['[', ']']
  | array (v :: vs) =>
    ['['] ++ newRow (depth + 1) ++ render (depth + 1) v ++ renderItems (depth + 1) vs ++
      newRow depth ++ [']']
  | object [] => ['\x7b', '\x7d']
  | object ((k, v) :: fs) =>
    ['\x7b'] ++ newRow (depth + 1) ++ quote k ++ [':', ' '] ++ render (depth + 1) v ++
      renderFields (depth + 1) fs ++ newRow depth ++ ['\x7d']

/-- The items behind the first, each on a new row. -/
def renderItems (depth : Nat) : List Json → List Char
  | [] => []
  | v :: vs => [','] ++ newRow depth ++ render depth v ++ renderItems depth vs

/-- The fields behind the first, each on a new row. -/
def renderFields (depth : Nat) : List (String × Json) → List Char
  | [] => []
  | (k, v) :: fs =>
    [','] ++ newRow depth ++ quote k ++ [':', ' '] ++ render depth v ++ renderFields depth fs

end

end Json

end MonkeyScan.Dump
