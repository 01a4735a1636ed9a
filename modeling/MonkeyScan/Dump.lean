import MonkeyScan.Dump.Json
import MonkeyScan.Token

/-!
# Dumps of tokens

A list of tokens as a text to be kept or read by another program: a row for each token, or one
JSON array with an object for each.
-/

namespace MonkeyScan.Dump

inductive Format where
  | text | json
deriving DecidableEq

namespace Format

def name : Format → String
  | text => "text"
  | json => "json"

def ofName? (w : String) : Option Format := [text, json].find? fun f => f.name = w

end Format

/-- The listing of each token on a row of its own. -/
def text (ts : List Token) : List Char := ts.flatMap fun t => t.listing.toList ++ ['\n']

def Json.ofPosition (p : Position) : Json :=
  .object [("line", .number p.line), ("column", .number p.column), ("offset", .number p.offset)]

def Json.ofToken (t : Token) : Json :=
  .object [("kind", .string t.kind.name), ("literal", .string t.literal),
    ("position", .ofPosition t.position), ("length", .number t.length)]

def json (ts : List Token) : List Char := (Json.array (ts.map .ofToken)).render 0 ++ ['\n']

def render : Format → List Token → List Char
  | .text => text
  | .json => json

end MonkeyScan.Dump
