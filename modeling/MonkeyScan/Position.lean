import MonkeyScan.Utf8

/-!
# Places in a source text

A `Position` is a line and a column, both counted in characters from 1, and an offset in UTF-8
bytes from 0. Reading a character moves the position behind it: only a line feed begins a new
line, every other character (a carriage return and a tab too) takes one column.

`advanceAll_append` says that reading a text in two parts is reading it at once, and
`advanceAll_offset` that the offset grows by the bytes of what was read.
-/

namespace MonkeyScan

/-- A place between two characters of a source text. -/
structure Position where
  line : Nat
  column : Nat
  offset : Nat
deriving DecidableEq

namespace Position

/-- The place before the first character. -/
def start : Position := ⟨1, 1, 0⟩

/-- The place behind `c`, for a `c` that stands at `p`. -/
def advance (p : Position) (c : Char) : Position :=
  if c = '\n' then ⟨p.line + 1, 1, p.offset + c.utf8Size⟩
  else ⟨p.line, p.column + 1, p.offset + c.utf8Size⟩

/-- The place behind the text `cs`, for a text that stands at `p`. -/
def advanceAll (p : Position) (cs : List Char) : Position := cs.foldl advance p

/-- The places that reading `cs` from `p` goes through, `p` itself first. -/
def trail (p : Position) : List Char → List Position
  | [] => [p]
  | c :: cs => p :: (p.advance c).trail cs

/-- Line and column, with a colon between. -/
def text (p : Position) : String := toString p.line ++ ":" ++ toString p.column

@[simp] theorem advanceAll_nil (p : Position) : p.advanceAll [] = p := rfl

@[simp] theorem advanceAll_cons (p : Position) (c : Char) (cs : List Char) :
    p.advanceAll (c :: cs) = (p.advance c).advanceAll cs := rfl

theorem advanceAll_append (p : Position) (cs ds : List Char) :
    p.advanceAll (cs ++ ds) = (p.advanceAll cs).advanceAll ds :=
  List.foldl_append

@[simp] theorem advance_offset (p : Position) (c : Char) :
    (p.advance c).offset = p.offset + c.utf8Size := by
  unfold advance; split <;> rfl

theorem advanceAll_offset (p : Position) (cs : List Char) :
    (p.advanceAll cs).offset = p.offset + Utf8.size cs := by
  induction cs generalizing p with
  | nil => simp
  | cons c cs ih => simp [ih, Nat.add_assoc]

end Position

end MonkeyScan
