import MonkeyScan.CommandLine
import MonkeyScan.FileTree
import MonkeyScan.Log.Filter
import MonkeyScan.Report

/-!
# The program

What the program writes and how it ends, for a command line and its surroundings. Tokens and
answers go to the output; log records, diagnostics and the reason of a failure go to the errors.

The exit code is 0 for success, 1 for a file that cannot be read or is not accepted, and 2 for a
command line that cannot be understood.
-/

namespace MonkeyScan.Program

/-- What a run finds: environment variables, files by path, its input, and the time that log
lines show. -/
structure Surroundings where
  environment : String → Option (List UInt8)
  file : String → Except Unreadable (List UInt8)
  input : List UInt8
  time : String

structure Result where
  code : Nat
  output : List UInt8
  errors : List UInt8
deriving DecidableEq

namespace Surroundings

/-- The value of a variable that is text. -/
def text? (w : Surroundings) (name : String) : Option String :=
  ((w.environment name).bind Utf8.decode?).map String.ofList

/-- Whether a variable has a value that is not empty, be it text or not. -/
def isSet (w : Surroundings) (name : String) : Bool := (w.environment name).any (!·.isEmpty)

/-- Whether colours are shown although the output is no terminal. -/
def coloursShown (w : Surroundings) : Bool :=
  match w.text? "CLICOLOR_FORCE" with
  | some value => value ≠ "0"
  | none => false

/-- Whether styles are shown in what the program says of its use. They can be refused, and they
are forced by any value. -/
def stylesShown (w : Surroundings) : Bool := !w.isSet "NO_COLOR" && w.isSet "CLICOLOR_FORCE"

/-- Whether styles are shown in the log, which has a variable of its own for them. -/
def logStyled (w : Surroundings) : Bool :=
  match w.text? "RUST_LOG_STYLE" with
  | some "always" => true
  | some "never" => false
  | _ => w.stylesShown

/-- Which records the log shows. What the environment says goes before what the command line
says. -/
def logReading (w : Surroundings) (verbose : Bool) : Log.Filter.Reading :=
  match w.text? "RUST_LOG" with
  | some spec => Log.Filter.read spec
  | none => ⟨.ofLevel (if verbose then .debug else .warn), []⟩

/-- What is said of the log's filter before anything else. -/
def logWarnings (w : Surroundings) (verbose : Bool) : List UInt8 :=
  Utf8.bytes (w.logReading verbose).lines

/-- The lines of the log that are shown of a list of records. -/
def logLines (w : Surroundings) (verbose : Bool) (rs : List Log.Record) : List UInt8 :=
  let filter := (w.logReading verbose).filter
  (rs.filter filter.allows).flatMap fun r => (r.line w.time).bytes w.logStyled

/-- The last line of a run that failed. -/
def failure (w : Surroundings) (message : String) : List UInt8 :=
  let word := if w.coloursShown then Paint.boldRed.apply "error" else "error"
  Utf8.bytes (word ++ ": " ++ message ++ "\n")

def userName (w : Surroundings) : String :=
  Session.userName (w.environment "USER") (w.environment "USERNAME")

end Surroundings

/-! ## Sessions -/

def endedNote (s : Session.Stats) : Log.Record :=
  ⟨.info, .program, "session ended: " ++ toString s.lines ++ " lines, " ++ toString s.tokens ++
    " tokens, " ++ toString s.illegal ++ " illegal"⟩

def session (w : Surroundings) (verbose : Bool) (prompt : String) (showPositions : Bool) : Result :=
  let input : Session.Input := ⟨w.input, false⟩
  let work := Session.effects ⟨prompt, showPositions, true⟩ w.coloursShown input
  let transcript := Sink.unlimited.perform work
  let notes := transcript.notes ++ [endedNote (Session.stats input.lines)]
  ⟨0, Utf8.bytes (Session.greeting w.userName ++ "\n") ++ transcript.output ++ Utf8.bytes "\n",
    w.logWarnings verbose ++ w.logLines verbose notes⟩

/-! ## Dumps -/

def readingNote (path : String) (size : Nat) : Log.Record :=
  ⟨.debug, .program, "scanning " ++ Text.quote path ++ " (" ++ toString size ++ " bytes)"⟩

/-- The text of the file at a path. -/
def readText (w : Surroundings) (path : String) : Except Unreadable (List Char) :=
  match w.file path with
  | .error e => .error e
  | .ok bytes =>
    match Utf8.decode? bytes with
    | some cs => .ok cs
    | none => .error .notText

/-- What follows the dump of a source that must have no illegal characters: the exit code, what is
noted, and what is said of them. -/
def deny (w : Surroundings) (path : String) (source : List Char) :
    Nat × List Log.Record × List UInt8 :=
  let report := Report.check path source
  if report.hasErrors then
    (1, scanLog source, (report.emit false .unlimited).output ++
      w.failure (toString report.count ++ " illegal character(s) in " ++ Text.quote path))
  else (0, scanLog source, [])

def dump (w : Surroundings) (verbose : Bool) (path : String) (format : Dump.Format)
    (denyIllegal : Bool) : Result :=
  let warnings := w.logWarnings verbose
  match readText w path with
  | .error e =>
    let reason := "Failed to read source file: " ++ Text.quote path ++ ": " ++ e.message
    ⟨1, [], warnings ++ w.failure reason⟩
  | .ok source =>
    let output := Utf8.encode (Dump.render format (scan source))
    let notes := readingNote path (Utf8.encode source).length :: scanLog source
    if denyIllegal then
      match deny w path source with
      | (code, more, said) => ⟨code, output, warnings ++ w.logLines verbose (notes ++ more) ++ said⟩
    else ⟨0, output, warnings ++ w.logLines verbose notes⟩

/-! ## Runs -/

def version : String := "monkeylex 0.1.0\n"

def perform (w : Surroundings) : CommandLine.Request → Result
  | .run verbose (.repl prompt showPositions) => session w verbose prompt showPositions
  | .run verbose (.tokens path format denyIllegal) => dump w verbose path format denyIllegal
  | .help topic full => ⟨0, (topic.text full).bytes w.stylesShown, []⟩
  | .version => ⟨0, Utf8.bytes version, []⟩

def run (w : Surroundings) (args : List String) : Result :=
  match CommandLine.parse args with
  | .ok q => perform w q
  | .error m => ⟨2, [], m.line.bytes w.stylesShown⟩

end MonkeyScan.Program
