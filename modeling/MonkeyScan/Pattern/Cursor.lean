import MonkeyScan.Pattern.Problem
import MonkeyScan.Text.Space

/-!
# Going through the text of a pattern

The text that is still to be read stands for the place in it. Where a pattern is spaced, white
space and comments between its characters say nothing: `skip` goes past them, and `gather` takes
characters from among them. `skip_length_le` says that neither goes back.
-/

namespace MonkeyScan.Pattern

/-- The problem of the text between what was left `before` and what is left `after`. -/
def refuse {α : Type} (c : Cause) (before after : List Char) : Except Problem α :=
  .error ⟨c, .between before after, none⟩

/-- Goes past white space and comments, which reach from a number sign to the end of the line. -/
def skipSpace (inComment : Bool) : List Char → List Char
  | [] => []
  | c :: cs =>
    if inComment then skipSpace (c ≠ '\n') cs
    else if c = '#' then skipSpace true cs
    else if Text.isSpace c then skipSpace false cs
    else c :: cs

def skip (spaced : Bool) (cs : List Char) : List Char := if spaced then skipSpace false cs else cs

/-- What is behind the first character. -/
def next (spaced : Bool) (cs : List Char) : List Char := skip spaced cs.tail

theorem skipSpace_length_le (b : Bool) (cs : List Char) : (skipSpace b cs).length ≤ cs.length := by
  induction cs generalizing b with
  | nil => simp [skipSpace]
  | cons c cs ih =>
    simp only [skipSpace]
    split
    · exact Nat.le_succ_of_le (ih _)
    · split
      · exact Nat.le_succ_of_le (ih _)
      · split
        · exact Nat.le_succ_of_le (ih _)
        · exact Nat.le_refl _

theorem skip_length_le (spaced : Bool) (cs : List Char) :
    (skip spaced cs).length ≤ cs.length := by
  unfold skip
  split
  · exact skipSpace_length_le false cs
  · exact Nat.le_refl _

/-- The characters that satisfy `p`, up to the first that does not. -/
def gather (p : Char → Bool) (spaced : Bool) : List Char → List Char × List Char
  | [] => ([], [])
  | c :: cs =>
    if p c then
      let (taken, rest) := gather p spaced (skip spaced cs)
      (c :: taken, rest)
    else ([], c :: cs)
termination_by cs => cs.length
decreasing_by exact Nat.lt_succ_of_le (skip_length_le spaced cs)

/-! ## Numbers -/

/-- Greater numbers than this are refused. -/
def greatestCount : Nat := 0xffffffff

/-- A number with white space around it. What is left behind it is known also where it is wrong. -/
def count (spaced : Bool) (cs : List Char) : Except Problem Nat × List Char :=
  let start := cs.dropWhile Text.isSpace
  let (digits, after) := gather Char.isDigit spaced start
  let rest := (gather Text.isSpace spaced after).2
  let n := digits.foldl (fun n c => 10 * n + (c.toNat - 48)) 0
  if digits.isEmpty then (refuse .countEmpty start after, rest)
  else if greatestCount < n then (refuse .decimalTooLarge start after, rest)
  else (.ok n, rest)

/-- The value of a hexadecimal digit. -/
def hexadecimal? (c : Char) : Option Nat :=
  if c.isDigit then some (c.toNat - 48)
  else if 'a' ≤ c ∧ c ≤ 'f' then some (c.toNat - 87)
  else if 'A' ≤ c ∧ c ≤ 'F' then some (c.toNat - 55)
  else none

def isHexadecimal (c : Char) : Bool := (hexadecimal? c).isSome

/-- The character whose code point the digits write, if there is one. -/
def charOfHexadecimal? (digits : List Char) : Option Char :=
  let n := digits.foldl (fun n c => 16 * n + (hexadecimal? c).getD 0) 0
  if n < 0xd800 ∨ (0xdfff < n ∧ n < 0x110000) then some (Char.ofNat n) else none

/-- So many hexadecimal digits. -/
def hexadecimals (spaced : Bool) : Nat → List Char → Except Problem (List Char × List Char)
  | 0, cs => .ok ([], cs)
  | _ + 1, [] => refuse .escapeUnfinished [] []
  | n + 1, c :: cs =>
    if isHexadecimal c then
      (hexadecimals spaced n (skip spaced cs)).map fun (digits, rest) => (c :: digits, rest)
    else refuse .hexadecimalDigit (c :: cs) cs

end MonkeyScan.Pattern
