/-!
# Painted text

Text that a terminal shows in a colour: an opening sequence, the text, and the sequence that
resets the terminal. Where the text itself resets the terminal and goes on, the colour is opened
again, so that it holds to the end.
-/

namespace MonkeyScan

inductive Paint where
  | boldRed | blue
deriving DecidableEq

namespace Paint

def opening : Paint → List Char
  | boldRed => "\x1b[1;31m".toList
  | blue => "\x1b[34m".toList

def reset : List Char := "\x1b[0m".toList

/-- The text with the colour opened again behind each reset that is not at its end. -/
def reopen (p : Paint) : List Char → List Char
  | [] => []
  | '\x1b' :: '[' :: '0' :: 'm' :: c :: cs => reset ++ p.opening ++ reopen p (c :: cs)
  | c :: cs => c :: reopen p cs

/-- The text in the colour. -/
def apply (p : Paint) (s : String) : String :=
  String.ofList (p.opening ++ p.reopen s.toList ++ reset)

end Paint

end MonkeyScan
