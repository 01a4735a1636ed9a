import MonkeyScan.Scanner

/-!
# Requests to a scanner

The ways in which a reader takes tokens from a scanner: one by one, by number, by kind or all that
are left. Only `Request.token` and `Request.peek` show the end token; to every other request the
text simply holds no more tokens.
-/

namespace MonkeyScan.Scanner

/-- Passes over `n` tokens, or to the end, and gives the token behind them. -/
def nth : Nat → Scanner → Option Token × Scanner
  | 0, s => s.next?
  | n + 1, s =>
    match s.next? with
    | (some _, s) => nth n s
    | (none, s) => (none, s)

/-- At most `n` tokens; no step is made behind the last of them. -/
def take : Nat → Scanner → List Token × Scanner
  | 0, s => ([], s)
  | n + 1, s =>
    match s.next? with
    | (some t, s) => (t :: (take n s).1, (take n s).2)
    | (none, s) => ([], s)

/-- Steps to the first token of a kind. -/
def find (s : Scanner) (k : Kind) : Option Token × Scanner :=
  if h : s.step.token.isEof then (none, s.step.after)
  else
    have := rest_step_lt (Bool.eq_false_iff.2 h)
    if s.step.token.kind = k then (some s.step.token, s.step.after) else s.step.after.find k
termination_by s.rest.length

inductive Request where
  | token
  | next
  | peek
  | nth (n : Nat)
  | take (n : Nat)
  | find (k : Kind)
  | collect
  | count
  | last
  | bounds
deriving DecidableEq

inductive Reply where
  | token (t : Token)
  | found (t : Option Token)
  | tokens (ts : List Token)
  | number (n : Nat)
  | bounds (least : Nat) (most : Option Nat)
deriving DecidableEq

/-- The reply to a request, and the scanner behind what the request took. The bounds are on the
number of tokens left; without a step nothing is known of it. -/
def answer (s : Scanner) : Request → Reply × Scanner
  | .token => (.token s.next.1, s.next.2)
  | .next => (.found s.next?.1, s.next?.2)
  | .peek => (.token s.next.1, s)
  | .nth n => (.found (s.nth n).1, (s.nth n).2)
  | .take n => (.tokens (s.take n).1, (s.take n).2)
  | .find k => (.found (s.find k).1, (s.find k).2)
  | .collect => (.tokens s.run.tokens, s.run.after)
  | .count => (.number s.run.tokens.length, s.run.after)
  | .last => (.found s.run.tokens.getLast?, s.run.after)
  | .bounds => (.bounds 0 none, s)

end MonkeyScan.Scanner
