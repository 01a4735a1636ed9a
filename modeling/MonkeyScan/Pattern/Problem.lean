import MonkeyScan.Text.Split

/-!
# What can be wrong with a pattern

A text that is to be read as a pattern can break its rules in many ways. A `Problem` is one of
them with its place, and `Problem.message` shows the text with the place marked.

A place in the text is told by the number of characters that follow it, which a reader of the text
knows without counting what it has read.
-/

namespace MonkeyScan.Pattern

/-- The part of a text between two places. -/
structure Extent where
  start : Nat
  stop : Nat
deriving DecidableEq

/-- The part between what was left to read before and what is left after. -/
def Extent.between (before after : List Char) : Extent := ⟨before.length, after.length⟩

/-- Which rule was broken. -/
inductive Cause where
  | classEscape | classRangeReversed | classRangeBoundary | classUnclosed
  | decimalTooLarge
  | hexadecimalEmpty | hexadecimalNoCharacter | hexadecimalDigit
  | escapeUnfinished | escapeUnknown
  | flagDanglingMinus | flagRepeated | flagMinusRepeated | flagsUnclosed | flagUnknown
  | nameRepeated | nameEmpty | nameCharacter | nameUnclosed
  | groupUnclosed | groupUnopened
  | countsReversed | countEmpty | countUnclosed | nothingToRepeat
  | wordEdgeUnclosed | wordEdgeUnknown | wordEdgeUnfinished
  | propertyLetter
  | backreference | lookaround
  | unicodeRefused | notUtf8
  | propertyUnknown | propertyValueUnknown | classUnavailable | foldingUnavailable
deriving DecidableEq

def Cause.message : Cause → String
  | classEscape => "invalid escape sequence found in character class"
  | classRangeReversed => "invalid character class range, the start must be <= the end"
  | classRangeBoundary => "invalid range boundary, must be a literal"
  | classUnclosed => "unclosed character class"
  | decimalTooLarge => "decimal literal invalid"
  | hexadecimalEmpty => "hexadecimal literal empty"
  | hexadecimalNoCharacter => "hexadecimal literal is not a Unicode scalar value"
  | hexadecimalDigit => "invalid hexadecimal digit"
  | escapeUnfinished => "incomplete escape sequence, reached end of pattern prematurely"
  | escapeUnknown => "unrecognized escape sequence"
  | flagDanglingMinus => "dangling flag negation operator"
  | flagRepeated => "duplicate flag"
  | flagMinusRepeated => "flag negation operator repeated"
  | flagsUnclosed => "expected flag but got end of regex"
  | flagUnknown => "unrecognized flag"
  | nameRepeated => "duplicate capture group name"
  | nameEmpty => "empty capture group name"
  | nameCharacter => "invalid capture group character"
  | nameUnclosed => "unclosed capture group name"
  | groupUnclosed => "unclosed group"
  | groupUnopened => "unopened group"
  | countsReversed => "invalid repetition count range, the start must be <= the end"
  | countEmpty => "repetition quantifier expects a valid decimal"
  | countUnclosed => "unclosed counted repetition"
  | nothingToRepeat => "repetition operator missing expression"
  | wordEdgeUnclosed =>
    "special word boundary assertion is either unclosed or contains an invalid character"
  | wordEdgeUnknown =>
    "unrecognized special word boundary assertion, valid choices are: start, end, start-half or " ++
      "end-half"
  | wordEdgeUnfinished =>
    "found either the beginning of a special word boundary or a bounded repetition on a \\b " ++
      "with an opening brace, but no closing brace"
  | propertyLetter => "invalid Unicode character class"
  | backreference => "backreferences are not supported"
  | lookaround => "look-around, including look-ahead and look-behind, is not supported"
  | unicodeRefused => "Unicode not allowed here"
  | notUtf8 => "pattern can match invalid UTF-8"
  | propertyUnknown => "Unicode property not found"
  | propertyValueUnknown => "Unicode property value not found"
  | classUnavailable =>
    "Unicode-aware Perl class not found (make sure the unicode-perl feature is enabled)"
  | foldingUnavailable =>
    "Unicode-aware case insensitivity matching is not available (make sure the unicode-case " ++
      "feature is enabled)"

/-- A broken rule, where it was broken, and a place before to which it refers. -/
structure Problem where
  cause : Cause
  extent : Extent
  earlier : Option Extent := none
deriving DecidableEq

/-! ## Showing the place -/

/-- A place by its line and its column, both counted from 0. -/
structure Spot where
  line : Nat
  column : Nat
deriving DecidableEq

/-- The spot behind the characters `cs`. -/
def Spot.behind (cs : List Char) : Spot :=
  ⟨cs.count '\n', (cs.reverse.takeWhile (· ≠ '\n')).length⟩

/-- An extent in a text by the spots at its ends. -/
def Extent.spots (e : Extent) (text : List Char) : Spot × Spot :=
  (.behind (text.take (text.length - e.start)), .behind (text.take (text.length - e.stop)))

/-- A row without a carriage return at its end. -/
def withoutReturn (row : List Char) : List Char :=
  if row.getLast? = some '\r' then row.dropLast else row

/-- The lines of a text, without what ends them. -/
def rows (text : List Char) : List (List Char) :=
  let pieces := Text.split '\n' text
  let ended := pieces.dropLast.map withoutReturn
  match pieces.getLast? with
  | some (c :: cs) => ended ++ [c :: cs]
  | _ => ended

/-- Carets under the columns between each two numbers, and at least one; `column` is where the
next character goes. -/
def carets (column : Nat) : List (Nat × Nat) → List Char
  | [] => []
  | (start, stop) :: more =>
    let marks := max 1 (stop - start)
    List.replicate (start - column) ' ' ++ List.replicate marks '^' ++
      carets (max column start + marks) more

/-- The rows of a text between margins, each followed by the marks of the spans on it. A text of
several lines has their numbers in the margin. -/
def annotate (text : List Char) (numbered : Bool) (spans : List (Spot × Spot)) : List Char :=
  let rows := rows text
  let digits := (toString (rows.length + if text.getLast? = some '\n' then 1 else 0)).length
  let margin (i : Nat) : List Char :=
    if numbered then (toString (i + 1)).toList.leftpad digits ' ' ++ [':', ' ']
    else List.replicate 4 ' '
  rows.zipIdx.flatMap fun (row, i) =>
    let marked := spans.filter fun s => s.1.line = i && s.2.line = i
    margin i ++ row ++ ['\n'] ++
      if marked.isEmpty then []
      else List.replicate (margin i).length ' ' ++
        carets 0 (marked.map fun s => (s.1.column, s.2.column)) ++ ['\n']

/-- What is said of a span that no single row can show. -/
def acrossRows (s : Spot × Spot) : String :=
  "on line " ++ toString (s.1.line + 1) ++ " (column " ++ toString (s.1.column + 1) ++
    ") through line " ++ toString (s.2.line + 1) ++ " (column " ++ toString s.2.column ++ ")\n"

/-- What is wrong with a text, with the place marked in it. -/
def Problem.message (p : Problem) (text : List Char) : String :=
  let spans := ((p.earlier.toList ++ [p.extent]).map (·.spots text))
  let numbered := text.contains '\n'
  let divider := if numbered then String.ofList (List.replicate 79 '~') ++ "\n" else ""
  let across := (spans.filter fun s => s.1.line ≠ s.2.line).map acrossRows
  "regex parse error:\n" ++ divider ++ String.ofList (annotate text numbered spans) ++ divider ++
    String.join across ++ "error: " ++ p.cause.message

end MonkeyScan.Pattern
