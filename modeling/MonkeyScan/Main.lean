import MonkeyScan.Program
import Std.Time.DateTime

/-!
# The executable

Reads the command line, the environment, files and the standard input, and writes what the
library says. A session is carried on line by line, so that a line is answered before the next is
read; everything else is worked out in one piece.
-/

namespace MonkeyScan.Main

/-- A number with at least two digits. -/
def twoDigits (n : Int) : String := if n < 10 then "0" ++ toString n else toString n

/-- The present time as the log shows it. -/
def now : IO String := do
  let t := Std.Time.DateTime.ofTimestampWithZone (← Std.Time.Timestamp.now) Std.Time.TimeZone.UTC
  let date := toString t.year.toInt ++ "-" ++ twoDigits t.month.val ++ "-" ++ twoDigits t.day.val
  let time :=
    twoDigits t.hour.val ++ ":" ++ twoDigits t.minute.val ++ ":" ++ twoDigits t.second.val
  return date ++ "T" ++ time ++ "Z"

/-- The number of a system error, which some calls give with its sign changed. -/
def errorNumber (code : UInt32) : UInt32 := min code (0 - code)

/-- Why a file could not be read. -/
def unreadable : IO.Error → Unreadable
  | .noFileOrDirectory .. => .missing
  | .inappropriateType _ code cause =>
    if errorNumber code = 21 then .isDirectory
    else if errorNumber code = 20 then .notDirectory
    else .other cause
  | .invalidArgument _ code cause =>
    if errorNumber code = 36 then .nameTooLong else .other cause
  | e => .other (toString e)

def readFile (path : String) : IO (Except Unreadable (List UInt8)) := do
  try
    return .ok (← IO.FS.readBinFile path).toList
  catch e => return .error (unreadable e)

/-- The environment variables that a run may ask for. -/
def consulted : List String :=
  ["USER", "USERNAME", "RUST_LOG", "RUST_LOG_STYLE", "NO_COLOR", "CLICOLOR_FORCE"]

/-- What a run finds, with the one file that its command line names. -/
def surroundings (path : Option String) : IO Program.Surroundings := do
  let values ← consulted.mapM fun name => do
    return (name, (← IO.getEnv name).map Utf8.bytes)
  let file ← match path with
    | some path => readFile path
    | none => pure (.error .missing)
  return ⟨fun name => (values.lookup name).join, fun _ => file, [], ← now⟩

def toBytes (bs : List UInt8) : ByteArray := ⟨bs.toArray⟩

/-! ## Sessions -/

/-- Carries out an effect on the standard streams. -/
def perform (w : Program.Surroundings) (verbose : Bool) : Effect → IO Unit
  | .write bytes => do (← IO.getStdout).write (toBytes bytes)
  | .flush => do (← IO.getStdout).flush
  | .note r => do (← IO.getStderr).write (toBytes (w.logLines verbose [r]))

/-- The bytes up to a line feed, with it, or up to the end of the input. -/
partial def readLine (input : IO.FS.Stream) (line : ByteArray) : IO ByteArray := do
  let byte ← input.read 1
  if byte.isEmpty then return line
  let line := line ++ byte
  if byte.toList = [10] then return line else readLine input line

partial def converse (w : Program.Surroundings) (verbose : Bool) (cfg : Session.Config)
    (stats : Session.Stats) : IO Session.Stats := do
  (Session.ask cfg).forM (perform w verbose)
  let line := (← readLine (← IO.getStdin) .empty).toList
  if line.isEmpty then return stats
  (Session.answer cfg w.coloursShown line).forM (perform w verbose)
  converse w verbose cfg (stats.add (Session.statsOfLine line))

def session (verbose : Bool) (prompt : String) (showPositions : Bool) : IO UInt32 := do
  let w ← surroundings none
  (← IO.getStderr).write (toBytes (w.logWarnings verbose))
  (← IO.getStdout).putStrLn (Session.greeting w.userName)
  let stats ← converse w verbose ⟨prompt, showPositions, true⟩ .zero
  perform w verbose (.note (Session.closingNote stats))
  perform w verbose (.note (Program.endedNote stats))
  (← IO.getStdout).putStrLn ""
  return 0

/-! ## Everything else -/

def write (r : Program.Result) : IO UInt32 := do
  let stdout ← IO.getStdout
  stdout.write (toBytes r.output)
  stdout.flush
  (← IO.getStderr).write (toBytes r.errors)
  return r.code.toUInt32

def run (args : List String) : IO UInt32 := do
  match CommandLine.parse args with
  | .ok (.run verbose (.repl prompt showPositions)) => session verbose prompt showPositions
  | .ok (.run _ (.tokens path _ _)) => write (Program.run (← surroundings (some path)) args)
  | _ => write (Program.run (← surroundings none) args)

end MonkeyScan.Main

def main (args : List String) : IO UInt32 := MonkeyScan.Main.run args
