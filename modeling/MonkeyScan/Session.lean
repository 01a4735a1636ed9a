import MonkeyScan.Paint
import MonkeyScan.Scanner
import MonkeyScan.Sink
import MonkeyScan.Text.Split
import MonkeyScan.Text.Trim
import MonkeyScan.Utf8

/-!
# Sessions

A session asks for a line, scans it on its own and prints its tokens, one to a row, until there
are no more lines. It is laid out as a list of effects first, one prompt before each line and one
more at the end; a sink then carries the effects out, and a fault ends the session where it
happens.

Input is cut into lines as bytes and then decoded, with a replacement character for each
ill-formed part; the end of a line does not belong to its text. A reader may fail at the end of
its bytes in place of ending: a line that was only begun by then is not answered.
-/

namespace MonkeyScan.Session

/-! ## Settings and counts -/

structure Config where
  prompt : String
  /-- Print the place of each token. -/
  showPositions : Bool
  /-- Paint illegal tokens and reserved words, where colours are shown at all. -/
  colour : Bool
deriving DecidableEq

def defaultPrompt : String := ">> "

def Config.default : Config := ⟨defaultPrompt, true, false⟩

/-- How many lines were answered, and how many tokens and illegal ones among them were in them. -/
structure Stats where
  lines : Nat
  tokens : Nat
  illegal : Nat
deriving DecidableEq

namespace Stats

def zero : Stats := ⟨0, 0, 0⟩

def add (s t : Stats) : Stats := ⟨s.lines + t.lines, s.tokens + t.tokens, s.illegal + t.illegal⟩

end Stats

/-! ## Tokens in a session -/

/-- The paint of a token, if it stands out. -/
def paint? (t : Token) : Option Paint :=
  if t.isIllegal then some .boldRed else if t.kind.isKeyword then some .blue else none

/-- The row of a token. Only its summary is painted, and only if the session is to use colours
and colours are shown. -/
def Config.render (cfg : Config) (coloursShown : Bool) (t : Token) : String :=
  let summary :=
    match if cfg.colour && coloursShown then paint? t else none with
    | some p => p.apply t.summary
    | none => t.summary
  if cfg.showPositions then summary ++ " @ " ++ t.position.text else summary

/-- Without paint, the row of a token with its place is its listing. -/
theorem Config.render_eq_listing {cfg : Config} {coloursShown : Bool} (t : Token)
    (hp : cfg.showPositions = true) (hc : (cfg.colour && coloursShown) = false) :
    cfg.render coloursShown t = t.listing := by
  simp [Config.render, hp, hc, Token.listing]

/-! ## Lines of input -/

structure Input where
  bytes : List UInt8
  /-- The reader fails behind the last byte, and does not end. -/
  failsAtEnd : Bool

/-- The lines that are answered: every one that ends with a line feed, and what follows the last
of them, if there is anything and the reader does not fail behind it. -/
def Input.lines (i : Input) : List (List UInt8) :=
  let pieces := Text.split 10 i.bytes
  if i.failsAtEnd || pieces.getLast? = some [] then pieces.dropLast else pieces

/-- The text of a line of input, without the line feeds and carriage returns at its end. -/
def lineText (line : List UInt8) : List Char :=
  Text.trimEnd (fun c => c == '\n' || c == '\r') (Utf8.decodeLossy line)

/-! ## Effects -/

/-- Prompting for a line. -/
def ask (cfg : Config) : List Effect := [.write (Utf8.bytes cfg.prompt), .flush]

def scanLine (line : List UInt8) : Scanner.Run := (Scanner.ofSource (lineText line)).run

/-- Printing the tokens of a line. -/
def answer (cfg : Config) (coloursShown : Bool) (line : List UInt8) : List Effect :=
  (scanLine line).steps.flatMap fun step =>
    step.notes.map .note ++ [.write (Utf8.bytes (cfg.render coloursShown step.token ++ "\n"))]

def statsOfLine (line : List UInt8) : Stats :=
  let tokens := (scanLine line).tokens
  ⟨1, tokens.length, (tokens.filter Token.isIllegal).length⟩

def stats (lines : List (List UInt8)) : Stats := (lines.map statsOfLine).foldl Stats.add .zero

/-- The note that is made when the reader ends. -/
def closingNote (s : Stats) : Log.Record :=
  ⟨.debug, .session, "input closed after " ++ toString s.lines ++ " lines"⟩

/-- All that a session does on a sink without faults. -/
def effects (cfg : Config) (coloursShown : Bool) (input : Input) : List Effect :=
  (input.lines.flatMap fun line => ask cfg ++ answer cfg coloursShown line) ++ ask cfg ++
    if input.failsAtEnd then [] else [.note (closingNote (stats input.lines))]

/-! ## Running -/

structure Outcome where
  transcript : Transcript
  result : Except Fault Stats

/-- Runs a session on a sink. A fault of the sink comes before one of the reader, since the reader
fails only when all effects are done. -/
def run (cfg : Config) (coloursShown : Bool) (input : Input) (sink : Sink) : Outcome :=
  let transcript := sink.perform (effects cfg coloursShown input)
  let result :=
    match transcript.fault with
    | some f => .error f
    | none => if input.failsAtEnd then .error .sourceFailed else .ok (stats input.lines)
  ⟨transcript, result⟩

/-! ## Greeting -/

/-- The name of a user by the two variables that may hold it. A value that is not text counts as
missing, and who has no name or an empty one is just there. -/
def userName (user username : Option (List UInt8)) : String :=
  match (user.bind Utf8.decode?).or (username.bind Utf8.decode?) with
  | some (c :: cs) => String.ofList (c :: cs)
  | _ => "there"

def greeting (name : String) : String := "Hello " ++ name ++ ", welcome to the Monkey REPL."

end MonkeyScan.Session
