import MonkeyScan.Terminal

/-!
# Styled text

Text with parts that stand out on a terminal. Each such part is written between a sequence that
opens its style and the one that resets the terminal; where no styles are wanted the same bytes
are written without what a terminal takes as commands, also those that the text itself brings.
-/

namespace MonkeyScan

inductive Style where
  | bold | boldUnderlined | boldRed | yellow | green | blue | cyan | grey
deriving DecidableEq

def Style.opening : Style → String
  | bold => "\x1b[1m"
  | boldUnderlined => "\x1b[1m\x1b[4m"
  | boldRed => "\x1b[1m\x1b[31m"
  | yellow => "\x1b[33m"
  | green => "\x1b[32m"
  | blue => "\x1b[34m"
  | cyan => "\x1b[36m"
  | grey => "\x1b[90m"

/-- What ends every style. -/
def Style.reset : String := "\x1b[0m"

/-- The text in a style, between the sequences that open and end it. -/
def Style.wrap (s : Style) (text : String) : String := s.opening ++ text ++ reset

/-- A text in parts, each plain or in a style. -/
structure Styled where
  parts : List (Option Style × String)
deriving DecidableEq

namespace Styled

instance : Coe String Styled := ⟨fun text => ⟨[(none, text)]⟩⟩

instance : Append Styled := ⟨fun a b => ⟨a.parts ++ b.parts⟩⟩

/-- A text all in one style. -/
def inStyle (s : Style) (text : String) : Styled := ⟨[(some s, text)]⟩

/-- The text with the sequences of its styles. -/
def painted (t : Styled) : String :=
  String.join (t.parts.map fun
    | (some s, text) => s.wrap text
    | (none, text) => text)

/-- The bytes that are written, with or without styles. -/
def bytes (styles : Bool) (t : Styled) : List UInt8 :=
  if styles then Utf8.bytes t.painted else Terminal.visible (Utf8.bytes t.painted)

end Styled

end MonkeyScan
