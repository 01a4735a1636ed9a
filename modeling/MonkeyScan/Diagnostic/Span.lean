/-!
# Inked text

Text of which some stretches are set apart by colour. A `Span` is a stretch in one ink; without
colour the inks make no difference, and with colour each stretch that is not plain stands between
escape sequences.
-/

namespace MonkeyScan

inductive Ink where
  | plain | severity | title | frame | mark
deriving DecidableEq

namespace Ink

def reset : String := "\x1b[0m"

/-- The sequence that turns an ink on: bold bright red for the severity, bold for the title behind
it, blue for the frame and red for what is marked. -/
def opening : Ink → String
  | plain => ""
  | severity => "\x1b[0m\x1b[1m\x1b[38;5;9m"
  | title => "\x1b[1m"
  | frame => "\x1b[0m\x1b[34m"
  | mark => "\x1b[0m\x1b[31m"

def closing : Ink → String
  | plain => ""
  | _ => reset

end Ink

structure Span where
  ink : Ink
  chars : List Char
deriving DecidableEq

namespace Span

def plain (s : String) : Span := ⟨.plain, s.toList⟩

def render (coloured : Bool) (s : Span) : List Char :=
  if coloured then s.ink.opening.toList ++ s.chars ++ s.ink.closing.toList else s.chars

def renderAll (coloured : Bool) (ss : List Span) : List Char := ss.flatMap (render coloured)

/-- Joins neighbours of the same ink. -/
def join : List Span → List Span
  | [] => []
  | s :: ss =>
    match join ss with
    | [] => [s]
    | t :: ts => if s.ink = t.ink then ⟨s.ink, s.chars ++ t.chars⟩ :: ts else s :: t :: ts

/-- Without colour, joining changes nothing. -/
theorem renderAll_join (ss : List Span) : renderAll false (join ss) = renderAll false ss := by
  induction ss with
  | nil => rfl
  | cons s ss ih =>
    have hs : renderAll false (s :: ss) = s.chars ++ renderAll false (join ss) := by
      rw [ih]; rfl
    rw [hs, join]
    split
    · next h => simp [h, renderAll, render]
    · next h => split <;> simp [h, renderAll, render]

end Span

end MonkeyScan
