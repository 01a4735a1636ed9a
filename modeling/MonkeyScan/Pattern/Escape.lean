import MonkeyScan.Pattern.Cursor
import MonkeyScan.Pattern.Form

/-!
# Escapes in a pattern

What a backslash and the characters behind it stand for: a character that would otherwise be a
sign, a control, a character by its code point, a class, or a condition on the place.
-/

namespace MonkeyScan.Pattern

/-- A code point behind the letter that announces it, in braces or with so many digits. -/
def codePoint (spaced : Bool) (digits : Nat) (cs : List Char) :
    Except Problem (Atom × List Char) := do
  match next spaced cs with
  | [] => refuse .escapeUnfinished [] []
  | '\x7b' :: r =>
    let brace := '\x7b' :: r
    let (word, rest) := gather isHexadecimal spaced (skip spaced r)
    match rest with
    | [] => refuse .escapeUnfinished brace rest
    | '\x7d' :: _ =>
      if word.isEmpty then refuse .hexadecimalEmpty brace (next spaced rest)
      else match charOfHexadecimal? word with
        | some c => return (.char c false, next spaced rest)
        | none => refuse .hexadecimalNoCharacter r rest
    | _ :: after => refuse .hexadecimalDigit rest after
  | start =>
    let (word, rest) ← hexadecimals spaced digits start
    match charOfHexadecimal? word with
    | some c => return (.char c (digits = 2), rest)
    | none => refuse .hexadecimalNoCharacter start rest

/-- The name of a property: one letter, or more in braces. -/
def property (spaced : Bool) (cs : List Char) : Except Problem (Atom × List Char) :=
  match next spaced cs with
  | [] => refuse .escapeUnfinished [] []
  | '\x7b' :: r =>
    let (name, rest) := gather (· ≠ '\x7d') spaced (skip spaced r)
    match rest with
    | [] => refuse .escapeUnfinished [] []
    | _ :: after => .ok (.property name (name.any fun c => c = ':' || c = '='), after)
  | '\\' :: after => refuse .propertyLetter ('\\' :: after) after
  | c :: after => .ok (.property [c] false, skip spaced after)

def edgeOfName? : String → Option Assertion
  | "start" => some .wordStart
  | "end" => some .wordEnd
  | "start-half" => some .noWordBefore
  | "end-half" => some .noWordBehind
  | _ => none

/-- The name of a special word edge in braces, where the braces hold no count. The escape began at
`start`. -/
def namedEdge (spaced : Bool) (start cs : List Char) :
    Except Problem (Option Assertion × List Char) :=
  let isNaming (c : Char) : Bool := c.isAlpha || c = '-'
  let contents := next spaced cs
  match contents with
  | [] => refuse .wordEdgeUnfinished start []
  | c :: _ =>
    if isNaming c then
      let (word, rest) := gather isNaming spaced contents
      match rest with
      | '\x7d' :: after =>
        match edgeOfName? (String.ofList word) with
        | some a => .ok (some a, after)
        | none => refuse .wordEdgeUnknown contents rest
      | _ => refuse .wordEdgeUnclosed cs rest
    else .ok (none, cs)

/-- Whether an escaped `c` is the character itself. -/
def isEscapable (c : Char) : Bool :=
  c.toNat < 0x80 && !c.isAlphanum && c ≠ '<' && c ≠ '>'

/-- What a single letter behind a backslash stands for. -/
def letterEscape? : Char → Option Atom
  | 'a' => some (.char '\x07' false)
  | 'f' => some (.char '\x0c' false)
  | 't' => some (.char '\t' false)
  | 'n' => some (.char '\n' false)
  | 'r' => some (.char '\r' false)
  | 'v' => some (.char '\x0b' false)
  | 'A' => some (.assertion .textStart)
  | 'z' => some (.assertion .textEnd)
  | 'B' => some (.assertion .noWordEdge)
  | '<' => some (.assertion .wordStart)
  | '>' => some (.assertion .wordEnd)
  | 'd' => some (.named .digit false)
  | 'D' => some (.named .digit true)
  | 's' => some (.named .space false)
  | 'S' => some (.named .space true)
  | 'w' => some (.named .word false)
  | 'W' => some (.named .word true)
  | _ => none

/-- The escape at the beginning of `cs`. -/
def escape (spaced : Bool) (cs : List Char) : Except Problem (Atom × List Char) :=
  match cs.tail with
  | [] => refuse .escapeUnfinished cs []
  | c :: after =>
    if c.isDigit then refuse .backreference cs after
    else if c = 'x' then codePoint spaced 2 (c :: after)
    else if c = 'u' then codePoint spaced 4 (c :: after)
    else if c = 'U' then codePoint spaced 8 (c :: after)
    else if c = 'p' ∨ c = 'P' then property spaced (c :: after)
    else if isEscapable c then .ok (.char c false, after)
    else if c = 'b' then
      match after with
      | '\x7b' :: _ =>
        (namedEdge spaced cs after).map fun (edge, rest) =>
          (.assertion (edge.getD .wordEdge), rest)
      | _ => .ok (.assertion .wordEdge, after)
    else match letterEscape? c with
      | some a => .ok (a, after)
      | none => refuse .escapeUnknown cs after

end MonkeyScan.Pattern
