import MonkeyScan.Proofs.Scanner.Tokens
import MonkeyScan.Scanner.Pool

/-!
# Scanners as numbers into a token list

Whatever is asked of a scanner, its answers are those of a reader who has the list of all tokens
and remembers only the number of the next one. `Index.answer` is this reader: the last token, the
end of the source, is given but never passed over, and only `Request.token` and `Request.peek`
show it. `IndexPool` keeps several of them, as `Pool` keeps several scanners.

A scanner `Stands` before token number `i` if it still gives the tokens from there on. This does
not settle its state: before and behind the blanks at the end of a source, a scanner stands before
the same token. One step is described once (`Stands.step`); the requests that make many steps are
inductions over it.

**Theorem (`answers_eq_index`).** A pool of scanners and a pool of numbers answer every list of
requests alike, and no request changes a scanner that it is not made to.
-/

namespace MonkeyScan

/-! ## The reader of a list -/

namespace Index

variable {ts : List Token}

/-- The number behind `k` more tokens, or that of the last token if there are not so many. -/
def advance (i : Fin ts.length) (k : Nat) : Fin ts.length :=
  ⟨min (i + k) (ts.length - 1), by have := i.2; omega⟩

/-- The number of the last token. -/
def last (i : Fin ts.length) : Fin ts.length := ⟨ts.length - 1, by have := i.2; omega⟩

/-- The tokens from number `i` on, the last one of the list not among them. -/
def left (i : Fin ts.length) : List Token := ts.dropLast.drop i

/-- The reply to a request, and the number of the token behind what the request took. -/
def answer (i : Fin ts.length) : Scanner.Request → Scanner.Reply × Fin ts.length
  | .token => (.token (ts.get i), advance i 1)
  | .next => if i + 1 < ts.length then (.found (some (ts.get i)), advance i 1) else (.found none, i)
  | .peek => (.token (ts.get i), i)
  | .nth k => (.found (left i)[k]?, advance i (k + 1))
  | .take k => (.tokens ((left i).take k), advance i k)
  | .find k =>
    (.found ((left i).find? fun t => t.kind = k),
      advance i ((left i).findIdx (fun t => t.kind = k) + 1))
  | .collect => (.tokens (left i), last i)
  | .count => (.number (left i).length, last i)
  | .last => (.found (left i).getLast?, last i)
  | .bounds => (.bounds 0 none, i)

theorem advance_advance (i : Fin ts.length) (j k : Nat) :
    advance (advance i j) k = advance i (j + k) := by
  apply Fin.ext
  simp only [advance]
  omega

theorem advance_zero (i : Fin ts.length) : advance i 0 = i := by
  apply Fin.ext
  have := i.2
  simp only [advance]
  omega

/-- Nothing is passed over behind the last token. -/
theorem advance_eq_self {i : Fin ts.length} (h : i + 1 = ts.length) (k : Nat) :
    advance i k = i := by
  apply Fin.ext
  simp only [advance]
  omega

theorem left_eq_nil {i : Fin ts.length} (h : i + 1 = ts.length) : left i = [] := by
  rw [left, List.drop_eq_nil_iff, List.length_dropLast]
  omega

theorem left_eq_cons {i : Fin ts.length} (h : i + 1 < ts.length) :
    left i = ts.get i :: left (advance i 1) := by
  have hi : (i : Nat) < ts.dropLast.length := by
    rw [List.length_dropLast]
    omega
  have hval : (advance i 1 : Nat) = i + 1 := by
    simp only [advance]
    omega
  rw [left, List.drop_eq_getElem_cons hi, List.getElem_dropLast, left, hval]
  rfl

end Index

/-- Numbers into a list of tokens, one of them current. -/
structure IndexPool (ts : List Token) where
  marks : List (Fin ts.length)
  current : Nat
  current_lt : current < marks.length

namespace IndexPool

variable {ts : List Token}

/-- The pool with one number, that of the first token. -/
def ofTokens (h : ts ≠ []) : IndexPool ts := ⟨[⟨0, List.length_pos_iff.2 h⟩], 0, by simp⟩

def mark (q : IndexPool ts) : Fin ts.length := q.marks.get ⟨q.current, q.current_lt⟩

/-- The pool with the current number moved to `i`. -/
def move (q : IndexPool ts) (i : Fin ts.length) : IndexPool ts :=
  ⟨q.marks.set q.current i, q.current, by rw [List.length_set]; exact q.current_lt⟩

/-- The pool with a copy of the current number behind all others. -/
def copy (q : IndexPool ts) : IndexPool ts :=
  ⟨q.marks ++ [q.mark], q.current, by
    rw [List.length_append]; exact Nat.lt_add_right _ q.current_lt⟩

/-- The pool with another number current, the last one if there are not so many. -/
def select (q : IndexPool ts) (i : Nat) : IndexPool ts :=
  ⟨q.marks, min i (q.marks.length - 1), by have := q.current_lt; omega⟩

def answer (q : IndexPool ts) : Pool.Request → Scanner.Reply × IndexPool ts
  | .ask r => ((Index.answer q.mark r).1, q.move (Index.answer q.mark r).2)
  | .fork => (.number q.marks.length, q.copy)
  | .select i => (.number (q.select i).current, q.select i)

def answers (q : IndexPool ts) : List Pool.Request → List Scanner.Reply
  | [] => []
  | r :: rs => (q.answer r).1 :: (q.answer r).2.answers rs

end IndexPool

/-! ## What a scanner still gives -/

namespace Scanner

/-- All tokens that a scanner still gives, the end token last. -/
def tokens (s : Scanner) : List Token := s.run.tokens ++ [s.run.last.token]

theorem tokens_ne_nil (s : Scanner) : s.tokens ≠ [] := by
  simp [tokens]

theorem tokens_of_not_isEof {s : Scanner} (h : s.step.token.isEof = false) :
    s.tokens = s.step.token :: s.step.after.tokens := by
  rw [tokens, run_of_not_isEof h]
  rfl

theorem tokens_of_isEof {s : Scanner} (h : s.step.token.isEof = true) :
    s.tokens = [s.step.token] := by
  rw [tokens, run_of_isEof h]
  rfl

/-- A scanner at the end of its text stays there. -/
theorem tokens_mk_nil (p : Position) : (⟨[], p⟩ : Scanner).tokens = [Token.atEnd p] := by
  rw [tokens, run_blanks allBlank_nil]
  rfl

/-- The step that gives the end token gives it again from then on. -/
theorem tokens_after_of_isEof {s : Scanner} (h : s.step.token.isEof = true) :
    s.step.after.tokens = s.tokens := by
  have hrest := (step_token_eof_iff s).1 h
  have hafter : s.step.after = ⟨[], s.skipBlanks.position⟩ := by
    rw [step_of_nil hrest, ← hrest]
    rfl
  rw [tokens_of_isEof h, hafter, tokens_mk_nil, step_of_nil hrest]
  rfl

theorem tokens_run_after (s : Scanner) : s.run.after.tokens = [s.run.last.token] := by
  have h := run_last s.rest s.position
  rw [Run.after, h]
  exact tokens_mk_nil _

end Scanner

/-! ## Agreement of single scanners -/

/-- The scanner `s` still gives the tokens from number `i` on. -/
def Stands {ts : List Token} (s : Scanner) (i : Fin ts.length) : Prop := s.tokens = ts.drop i

namespace Stands

variable {ts : List Token} {s : Scanner} {i : Fin ts.length}

open Index

/-- One step, whether it gives the end token or another one. -/
theorem step (h : Stands s i) :
    s.step.token = ts.get i ∧ Stands s.step.after (advance i 1) ∧
      (s.step.token.isEof = true ↔ i + 1 = ts.length) := by
  have hdrop : ts.drop i = ts.get i :: ts.drop (i + 1) := List.drop_eq_getElem_cons i.2
  cases heof : s.step.token.isEof with
  | true =>
    have htokens : [s.step.token] = ts.get i :: ts.drop (i + 1) := by
      rw [← Scanner.tokens_of_isEof heof, ← hdrop, h]
    obtain ⟨htoken, hnil⟩ := List.cons.inj htokens
    have hlen : i + 1 = ts.length := by
      have := List.drop_eq_nil_iff.1 hnil.symm
      omega
    refine ⟨htoken, ?_, by simp [hlen]⟩
    rw [Stands, Scanner.tokens_after_of_isEof heof, advance_eq_self hlen]
    exact h
  | false =>
    have htokens : s.step.token :: s.step.after.tokens = ts.get i :: ts.drop (i + 1) := by
      rw [← Scanner.tokens_of_not_isEof heof, ← hdrop, h]
    obtain ⟨htoken, hafter⟩ := List.cons.inj htokens
    have hlen : i + 1 < ts.length := by
      by_contra hle
      rw [List.drop_eq_nil_iff.2 (by omega)] at hafter
      exact s.step.after.tokens_ne_nil hafter
    have hval : (advance i 1 : Nat) = i + 1 := by
      simp only [advance]
      omega
    refine ⟨htoken, ?_, by simp [Nat.ne_of_lt hlen]⟩
    rw [Stands, hafter, hval]

theorem after (h : Stands s i) : Stands s.step.after (advance i 1) := h.step.2.1

theorem next?_of_lt (h : Stands s i) (hlen : i + 1 < ts.length) :
    s.next? = (some (ts.get i), s.step.after) := by
  obtain ⟨htoken, -, heof⟩ := h.step
  have hfalse : s.step.token.isEof = false := by
    rw [Bool.eq_false_iff, Ne, heof]
    omega
  rw [Scanner.next?, Scanner.next, hfalse, htoken]
  rfl

theorem next?_of_eq (h : Stands s i) (hlen : i + 1 = ts.length) :
    s.next? = (none, s.step.after) := by
  rw [Scanner.next?, Scanner.next, h.step.2.2.2 hlen]
  rfl

/-! ### Requests of many steps -/

theorem nth (h : Stands s i) (k : Nat) :
    (s.nth k).1 = (left i)[k]? ∧ Stands (s.nth k).2 (advance i (k + 1)) := by
  induction k generalizing s i with
  | zero =>
    rcases Nat.lt_or_eq_of_le i.2 with hlen | hlen
    · rw [Scanner.nth, h.next?_of_lt hlen, left_eq_cons hlen]
      exact ⟨rfl, h.after⟩
    · rw [Scanner.nth, h.next?_of_eq hlen, left_eq_nil hlen]
      exact ⟨rfl, h.after⟩
  | succ k ih =>
    rcases Nat.lt_or_eq_of_le i.2 with hlen | hlen
    · obtain ⟨hfound, hstands⟩ := ih h.after
      rw [advance_advance, Nat.add_comm 1] at hstands
      rw [Scanner.nth, h.next?_of_lt hlen, left_eq_cons hlen]
      exact ⟨hfound, hstands⟩
    · rw [Scanner.nth, h.next?_of_eq hlen, left_eq_nil hlen, advance_eq_self hlen]
      exact ⟨rfl, advance_eq_self hlen 1 ▸ h.after⟩

theorem take (h : Stands s i) (k : Nat) :
    (s.take k).1 = (left i).take k ∧ Stands (s.take k).2 (advance i k) := by
  induction k generalizing s i with
  | zero => exact ⟨rfl, (advance_zero i).symm ▸ h⟩
  | succ k ih =>
    rcases Nat.lt_or_eq_of_le i.2 with hlen | hlen
    · obtain ⟨htaken, hstands⟩ := ih h.after
      rw [advance_advance, Nat.add_comm 1] at hstands
      rw [Scanner.take, h.next?_of_lt hlen, left_eq_cons hlen]
      exact ⟨congrArg (ts.get i :: ·) htaken, hstands⟩
    · rw [Scanner.take, h.next?_of_eq hlen, left_eq_nil hlen, advance_eq_self hlen]
      exact ⟨rfl, advance_eq_self hlen 1 ▸ h.after⟩

theorem find (h : Stands s i) (k : Kind) :
    (s.find k).1 = (left i).find? (fun t => t.kind = k) ∧
      Stands (s.find k).2 (advance i ((left i).findIdx (fun t => t.kind = k) + 1)) := by
  fun_induction Scanner.find s k generalizing i with
  | case1 s heof =>
    have hlen := h.step.2.2.1 heof
    rw [left_eq_nil hlen]
    exact ⟨rfl, h.after⟩
  | case2 s heof _ hk =>
    obtain ⟨htoken, hafter, hlast⟩ := h.step
    have hlen : i + 1 < ts.length := Nat.lt_of_le_of_ne i.2 (mt hlast.2 heof)
    rw [left_eq_cons hlen, ← htoken, List.find?_cons_of_pos (by simpa using hk), List.findIdx_cons]
    refine ⟨rfl, ?_⟩
    simpa only [hk, decide_true, cond_true] using hafter
  | case3 s heof _ hk ih =>
    obtain ⟨htoken, hafter, hlast⟩ := h.step
    have hlen : i + 1 < ts.length := Nat.lt_of_le_of_ne i.2 (mt hlast.2 heof)
    obtain ⟨hfound, hstands⟩ := ih hafter
    rw [advance_advance, Nat.add_comm 1] at hstands
    rw [left_eq_cons hlen, ← htoken, List.find?_cons_of_neg (by simpa using hk), List.findIdx_cons]
    refine ⟨hfound, ?_⟩
    simpa only [hk, decide_false, cond_false] using hstands

theorem run_tokens (h : Stands s i) : s.run.tokens = left i := by
  have hleft : left i = (ts.drop i).dropLast := by
    rw [left, List.dropLast_eq_take, List.dropLast_eq_take, List.drop_take, List.length_drop,
      Nat.sub_right_comm]
  rw [hleft, ← show s.tokens = ts.drop i from h, Scanner.tokens, List.dropLast_concat]

theorem run_after (h : Stands s i) : Stands s.run.after (last i) := by
  have htokens : ts.drop i = s.run.tokens ++ [s.run.last.token] := h.symm
  have hlen := congrArg List.length htokens
  rw [List.length_drop, List.length_append, List.length_singleton] at hlen
  have hlast : ts.drop (last i) = (ts.drop i).drop s.run.tokens.length := by
    rw [List.drop_drop]
    congr 1
    simp only [last]
    omega
  rw [Stands, Scanner.tokens_run_after, hlast, htokens, List.drop_left]

/-- **Agreement.** A scanner that stands before token number `i` answers as `i` does, and then
stands where `i` has gone. -/
theorem answer (h : Stands s i) (r : Scanner.Request) :
    (s.answer r).1 = (Index.answer i r).1 ∧ Stands (s.answer r).2 (Index.answer i r).2 := by
  have htoken := h.step.1
  cases r with
  | token => exact ⟨congrArg Scanner.Reply.token htoken, h.after⟩
  | next =>
    rcases Nat.lt_or_eq_of_le i.2 with hlen | hlen
    · rw [Scanner.answer, h.next?_of_lt hlen, Index.answer, if_pos hlen]
      exact ⟨rfl, h.after⟩
    · rw [Scanner.answer, h.next?_of_eq hlen, Index.answer, if_neg (by omega)]
      exact ⟨rfl, advance_eq_self hlen 1 ▸ h.after⟩
  | peek => exact ⟨congrArg Scanner.Reply.token htoken, h⟩
  | nth k => exact ⟨congrArg Scanner.Reply.found (h.nth k).1, (h.nth k).2⟩
  | take k => exact ⟨congrArg Scanner.Reply.tokens (h.take k).1, (h.take k).2⟩
  | find k => exact ⟨congrArg Scanner.Reply.found (h.find k).1, (h.find k).2⟩
  | collect => exact ⟨congrArg Scanner.Reply.tokens h.run_tokens, h.run_after⟩
  | count =>
    exact ⟨congrArg (fun us => Scanner.Reply.number (List.length us)) h.run_tokens, h.run_after⟩
  | last =>
    exact ⟨congrArg (fun us => Scanner.Reply.found (List.getLast? us)) h.run_tokens, h.run_after⟩
  | bounds => exact ⟨rfl, h⟩

end Stands

/-! ## Agreement of pools -/

namespace Pool

/-- The pool that a list of requests leaves. -/
def after (p : Pool) : List Request → Pool
  | [] => p
  | r :: rs => (p.answer r).2.after rs

/-- Scanner by scanner, the pool `p` stands before the tokens that `q` has marked. -/
structure Agrees {ts : List Token} (p : Pool) (q : IndexPool ts) : Prop where
  length_eq : p.scanners.length = q.marks.length
  current_eq : p.current = q.current
  stands : ∀ (j : Nat) (s : Scanner) (i : Fin ts.length),
    p.scanners[j]? = some s → q.marks[j]? = some i → Stands s i

namespace Agrees

variable {ts : List Token} {p : Pool} {q : IndexPool ts}

theorem current_stands (h : Agrees p q) : Stands p.scanner q.mark := by
  refine h.stands p.current _ _ (List.getElem?_eq_getElem p.current_lt) ?_
  rw [h.current_eq]
  exact List.getElem?_eq_getElem q.current_lt

theorem ask (h : Agrees p q) (r : Scanner.Request) :
    Agrees (p.answer (.ask r)).2 (q.answer (.ask r)).2 where
  length_eq := by simp [answer, IndexPool.answer, IndexPool.move, h.length_eq]
  current_eq := h.current_eq
  stands j s i hs hi := by
    simp only [answer, IndexPool.answer, IndexPool.move, ← h.current_eq] at hs hi
    by_cases hj : p.current = j
    · subst hj
      have hlt : p.current < q.marks.length := h.length_eq ▸ p.current_lt
      rw [List.getElem?_set_self p.current_lt, Option.some.injEq] at hs
      rw [List.getElem?_set_self hlt, Option.some.injEq] at hi
      rw [← hs, ← hi]
      exact (h.current_stands.answer r).2
    · rw [List.getElem?_set_ne hj] at hs hi
      exact h.stands j s i hs hi

theorem fork (h : Agrees p q) : Agrees (p.answer .fork).2 (q.answer .fork).2 where
  length_eq := by simp [answer, IndexPool.answer, IndexPool.copy, h.length_eq]
  current_eq := h.current_eq
  stands j s i hs hi := by
    simp only [answer, IndexPool.answer, IndexPool.copy] at hs hi
    rcases Nat.lt_or_ge j p.scanners.length with hj | hj
    · rw [List.getElem?_append_left hj] at hs
      rw [List.getElem?_append_left (h.length_eq ▸ hj)] at hi
      exact h.stands j s i hs hi
    · rw [List.getElem?_append_right hj] at hs
      rw [List.getElem?_append_right (h.length_eq ▸ hj), ← h.length_eq] at hi
      generalize j - p.scanners.length = k at hs hi
      cases k with
      | zero =>
        cases hs
        cases hi
        exact h.current_stands
      | succ k => cases hs

end Agrees

/-- **Agreement of pools.** One request keeps the agreement, and gets the same reply. -/
theorem Agrees.answer {ts : List Token} {p : Pool} {q : IndexPool ts} (h : Agrees p q)
    (r : Request) : (p.answer r).1 = (q.answer r).1 ∧ Agrees (p.answer r).2 (q.answer r).2 := by
  cases r with
  | ask r => exact ⟨(h.current_stands.answer r).1, h.ask r⟩
  | fork => exact ⟨congrArg Scanner.Reply.number h.length_eq, h.fork⟩
  | select i =>
    have hj : min i (p.scanners.length - 1) = min i (q.marks.length - 1) := by rw [h.length_eq]
    exact ⟨congrArg Scanner.Reply.number hj, h.length_eq, hj, h.stands⟩

theorem Agrees.answers {ts : List Token} {p : Pool} {q : IndexPool ts} (h : Agrees p q)
    (rs : List Request) : p.answers rs = q.answers rs := by
  induction rs generalizing p q with
  | nil => rfl
  | cons r rs ih =>
    obtain ⟨hreply, hafter⟩ := h.answer r
    rw [Pool.answers, IndexPool.answers, hreply, ih hafter]

end Pool

/-! ## Sources -/

theorem scan_ne_nil (source : List Char) : scan source ≠ [] := by
  simp [scan_eq]

/-- The first scanner of a source stands before the first token. -/
theorem agrees_ofSource (source : List Char) :
    Pool.Agrees (.ofSource source) (IndexPool.ofTokens (scan_ne_nil source)) where
  length_eq := rfl
  current_eq := rfl
  stands j s i hs hi := by
    cases j with
    | zero =>
      cases hs
      cases hi
      have hlast : (Scanner.ofSource source).run.last.token =
          Token.atEnd (Position.start.advanceAll source) := by
        rw [Scanner.ofSource, Scanner.run_last]
        rfl
      show (Scanner.ofSource source).tokens = scan source
      rw [Scanner.tokens, hlast, scan_eq]
      rfl
    | succ j => cases hs

/-- **Scanners as numbers.** Every list of requests to the scanners of a source is answered as if
each scanner were a number into the tokens of the source; and whatever was requested before, a
request leaves all scanners as they are but the current one. -/
theorem answers_eq_index (source : List Char) (rs : List Pool.Request) :
    (Pool.ofSource source).answers rs =
        (IndexPool.ofTokens (scan_ne_nil source)).answers rs ∧
      ∀ r j, j ≠ ((Pool.ofSource source).after rs).current →
        j < ((Pool.ofSource source).after rs).scanners.length →
        (((Pool.ofSource source).after rs).answer r).2.scanners[j]? =
          ((Pool.ofSource source).after rs).scanners[j]? :=
  ⟨(agrees_ofSource source).answers rs, fun _ _ hj hlt => Pool.getElem?_answer_of_ne hj hlt⟩

end MonkeyScan
