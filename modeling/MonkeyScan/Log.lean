import MonkeyScan.Styled

/-!
# The log

What a run notes about its work, apart from its output. A `Record` has a level, the part of the
program that it comes from, and a message.
-/

namespace MonkeyScan.Log

/-- How grave a record is, the gravest first. -/
inductive Level where
  | error | warn | info | debug | trace
deriving DecidableEq

namespace Level

def all : List Level := [error, warn, info, debug, trace]

def name : Level → String
  | error => "ERROR"
  | warn => "WARN"
  | info => "INFO"
  | debug => "DEBUG"
  | trace => "TRACE"

/-- The name, filled up with blanks to the length of the longest. -/
def label (l : Level) : String := String.ofList (l.name.toList.rightpad 5 ' ')

/-- How much detail a level gives; a filter for a level keeps all levels of no more detail. -/
def detail : Level → Nat
  | error => 1
  | warn => 2
  | info => 3
  | debug => 4
  | trace => 5

/-- Reads the name of a level, in capital or small letters. -/
def ofName? (w : String) : Option Level := all.find? fun l => l.name = w.toUpper

end Level

/-- The parts of the program that write to the log. -/
inductive Origin where
  | program | scanner | session
deriving DecidableEq

/-- The path under which a filter addresses a part of the program. -/
def Origin.path : Origin → String
  | program => "monkeylex"
  | scanner => "monkeylex::lexer::scanner"
  | session => "monkeylex::repl"

structure Record where
  level : Level
  origin : Origin
  message : String
deriving DecidableEq

/-- The records of level `l` and of graver levels. -/
def upTo (l : Level) (rs : List Record) : List Record :=
  rs.filter fun r => r.level.detail ≤ l.detail

/-- The style of a level's name. -/
def Level.style : Level → Style
  | error => .boldRed
  | warn => .yellow
  | info => .green
  | debug => .blue
  | trace => .cyan

/-- A record as a line of the log. -/
def Record.line (time : String) (r : Record) : Styled :=
  .inStyle .grey "[" ++ time ++ " " ++ .inStyle r.level.style r.level.label ++ " " ++
    r.origin.path ++ .inStyle .grey "]" ++ " " ++ r.message ++ "\n"

end MonkeyScan.Log
