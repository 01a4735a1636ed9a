import MonkeyScan.Scanner.Request

/-!
# Scanners side by side

A scanner is a value, so that a reader may keep a copy of one, go on with another and come back.
A `Pool` holds the scanners that a reader has kept, one of them current.

`getElem?_answer_of_ne` says that no request changes a scanner other than the current one, and
`current_lt` that there always is a current one.
-/

namespace MonkeyScan

structure Pool where
  scanners : List Scanner
  current : Nat
  current_lt : current < scanners.length

namespace Pool

inductive Request where
  /-- Ask the current scanner. -/
  | ask (r : Scanner.Request)
  /-- Keep a copy of the current scanner behind all others; the current one stays current. -/
  | fork
  /-- Make another scanner current, the last one if there are not so many. -/
  | select (i : Nat)
deriving DecidableEq

/-- The pool with one scanner, at the start of a source. -/
def ofSource (source : List Char) : Pool := ⟨[.ofSource source], 0, by simp⟩

def scanner (p : Pool) : Scanner := p.scanners.get ⟨p.current, p.current_lt⟩

def answer (p : Pool) : Request → Scanner.Reply × Pool
  | .ask r =>
    ((p.scanner.answer r).1,
      ⟨p.scanners.set p.current (p.scanner.answer r).2, p.current, by simpa using p.current_lt⟩)
  | .fork =>
    (.number p.scanners.length,
      ⟨p.scanners ++ [p.scanner], p.current, by
        have := p.current_lt
        simp only [List.length_append]; omega⟩)
  | .select i =>
    let j := min i (p.scanners.length - 1)
    (.number j, ⟨p.scanners, j, by have := p.current_lt; omega⟩)

/-- The replies to a list of requests, each to the pool that the one before it left. -/
def answers (p : Pool) : List Request → List Scanner.Reply
  | [] => []
  | r :: rs => (p.answer r).1 :: (p.answer r).2.answers rs

theorem getElem?_answer_of_ne {p : Pool} {r : Request} {i : Nat} (hi : i ≠ p.current)
    (hlt : i < p.scanners.length) : (p.answer r).2.scanners[i]? = p.scanners[i]? := by
  cases r with
  | ask r => simp [answer, hi.symm]
  | fork => simp [answer, List.getElem?_append_left hlt]
  | select j => rfl

end Pool

end MonkeyScan
