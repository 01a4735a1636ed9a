import MonkeyScan.Log
import MonkeyScan.Text.Cut
import MonkeyScan.Text.Quoted
import MonkeyScan.Token.Lexeme

/-!
# The scanner

A scanner is the text that is still to be read and the place where that text begins. `Scanner.step`
skips blanks and takes one lexeme; at the end of the text it gives the end token and stays there.

Scanning cannot fail, and every step that is not at the end leaves a shorter text
(`rest_step_lt`), so `Scanner.run` ends without a bound being given. Each step also notes in the log
what it took.
-/

namespace MonkeyScan

/-! ## Single steps -/

structure Scanner where
  rest : List Char
  position : Position
deriving DecidableEq

namespace Scanner

/-- The scanner at the start of a source. -/
def ofSource (source : List Char) : Scanner := ⟨source, .start⟩

/-- The next character, which is not taken. -/
def peek? (s : Scanner) : Option Char := s.rest.head?

/-- Takes the next character, if the text holds one. -/
def bump (s : Scanner) : Option Char × Scanner :=
  match s.rest with
  | [] => (none, s)
  | c :: cs => (some c, ⟨cs, s.position.advance c⟩)

/-- The longest run of characters that satisfy `p`, and the scanner behind it. The run is cut from
the text as one piece, and the place behind it is worked out afterwards. -/
def span (s : Scanner) (p : Char → Bool) : List Char × Scanner :=
  let (run, rest) := Text.cutSpan p s.rest
  (run, ⟨rest, s.position.advanceAll run⟩)

theorem span_eq (s : Scanner) (p : Char → Bool) :
    s.span p =
      (s.rest.takeWhile p, ⟨s.rest.dropWhile p, s.position.advanceAll (s.rest.takeWhile p)⟩) := by
  rw [span, Text.cutSpan_eq]

def skipBlanks (s : Scanner) : Scanner := (s.span isBlank).2

/-- The scanner behind the lexeme `l`, for a scanner that stands before it. -/
def skip (s : Scanner) (l : Lexeme) : Scanner :=
  ⟨s.rest.drop l.chars.length, s.position.advanceAll l.chars⟩

/-- What a step gives: a token, what it notes in the log, and the scanner behind the token. -/
structure Step where
  token : Token
  notes : List Log.Record
  after : Scanner

/-- The note on a character that belongs to no token. -/
def illegalNote (c : Char) (p : Position) : Log.Record :=
  ⟨.debug, .scanner, "illegal character " ++ Text.quoteChar c ++ " at " ++ p.text⟩

/-- The note on a token of any kind. -/
def tokenNote (t : Token) : Log.Record := ⟨.trace, .scanner, "scanned " ++ t.listing⟩

/-- The step over the lexeme at the front of `c :: cs`, for a scanner that stands before it. -/
def stepOver (s : Scanner) (c : Char) (cs : List Char) : Step :=
  let l := Lexeme.first c cs
  let t := l.token s.position
  { token := t
    notes := (if l.kind = .illegal then [illegalNote c s.position] else []) ++ [tokenNote t]
    after := s.skip l }

/-- The step at the end of the text. -/
def stepAtEnd (s : Scanner) : Step where
  token := ⟨.eof, "", s.position, 0⟩
  notes := []
  after := s

/-- The step of a scanner that stands behind the blanks. -/
def stepHere (s : Scanner) : Step :=
  match s.rest with
  | [] => s.stepAtEnd
  | c :: cs => s.stepOver c cs

def step (s : Scanner) : Step := s.skipBlanks.stepHere

theorem step_of_nil {s : Scanner} (h : s.skipBlanks.rest = []) :
    s.step = s.skipBlanks.stepAtEnd := by
  simp [step, stepHere, h]

theorem step_of_cons {s : Scanner} {c : Char} {cs : List Char} (h : s.skipBlanks.rest = c :: cs) :
    s.step = s.skipBlanks.stepOver c cs := by
  simp [step, stepHere, h]

/-- The token of the next step and the scanner behind it. -/
def next (s : Scanner) : Token × Scanner := (s.step.token, s.step.after)

/-- The next token if the text holds one. -/
def next? (s : Scanner) : Option Token × Scanner :=
  (if s.next.1.isEof then none else some s.next.1, s.next.2)

theorem skipBlanks_rest (s : Scanner) : s.skipBlanks.rest = s.rest.dropWhile isBlank := by
  rw [skipBlanks, span_eq]

theorem length_skipBlanks_le (s : Scanner) : s.skipBlanks.rest.length ≤ s.rest.length := by
  rw [skipBlanks_rest]
  exact (List.dropWhile_sublist isBlank).length_le

/-- At the end of the text, and only there, a step gives the end token. -/
theorem step_token_eof_iff (s : Scanner) :
    s.step.token.isEof = true ↔ s.skipBlanks.rest = [] := by
  rw [Token.isEof_iff]
  cases h : s.skipBlanks.rest with
  | nil => simp [step_of_nil h, stepAtEnd]
  | cons c cs => simp [step_of_cons h, stepOver, Lexeme.token, Lexeme.first_kind_ne_eof]

theorem rest_step_lt {s : Scanner} (h : s.step.token.isEof = false) :
    s.step.after.rest.length < s.rest.length := by
  have hle := s.length_skipBlanks_le
  cases h' : s.skipBlanks.rest with
  | nil => simp [(step_token_eof_iff s).2 h'] at h
  | cons c cs =>
    have hpos := Lexeme.first_chars_length_pos c cs
    simp only [step_of_cons h', stepOver, skip, h', List.length_drop, List.length_cons] at hle ⊢
    omega

/-! ## Whole runs -/

/-- The steps of a run to the end of the text, with the one that gave the end token apart. -/
structure Run where
  steps : List Step
  last : Step

namespace Run

/-- The tokens before the end token. -/
def tokens (r : Run) : List Token := r.steps.map Step.token

def notes (r : Run) : List Log.Record := r.steps.flatMap Step.notes ++ r.last.notes

def after (r : Run) : Scanner := r.last.after

end Run

def run (s : Scanner) : Run :=
  if h : s.step.token.isEof then ⟨[], s.step⟩
  else
    have := rest_step_lt (Bool.eq_false_iff.2 h)
    let r := s.step.after.run
    ⟨s.step :: r.steps, r.last⟩
termination_by s.rest.length

theorem run_of_isEof {s : Scanner} (h : s.step.token.isEof = true) : s.run = ⟨[], s.step⟩ := by
  rw [run, dif_pos h]

theorem run_of_not_isEof {s : Scanner} (h : s.step.token.isEof = false) :
    s.run = ⟨s.step :: s.step.after.run.steps, s.step.after.run.last⟩ := by
  rw [run, dif_neg (by simp [h])]

end Scanner

/-! ## Sources -/

/-- All tokens of a source, the end token last. -/
def scan (source : List Char) : List Token :=
  let r := (Scanner.ofSource source).run
  r.tokens ++ [r.after.next.1]

/-- What the log holds of a source's scan. -/
def scanLog (source : List Char) : List Log.Record := (Scanner.ofSource source).run.notes

end MonkeyScan
