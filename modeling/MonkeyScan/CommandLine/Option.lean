/-!
# Options of the command line

The program alone and each of its subcommands take options. A switch is given or not; a setting
has a value. An option is written behind two hyphens, and some switches also by one letter behind
one hyphen.
-/

namespace MonkeyScan.CommandLine

inductive Switch where
  | verbose | noPositions | denyIllegal | help | version
deriving DecidableEq

def Switch.long : Switch → String
  | verbose => "verbose"
  | noPositions => "no-positions"
  | denyIllegal => "deny-illegal"
  | help => "help"
  | version => "version"

def Switch.letter? : Switch → Option Char
  | verbose => some 'v'
  | help => some 'h'
  | version => some 'V'
  | _ => none

inductive Setting where
  | prompt | format
deriving DecidableEq

def Setting.long : Setting → String
  | prompt => "prompt"
  | format => "format"

/-- What a usage message can be about. -/
inductive Subject where
  | switch (w : Switch)
  | setting (s : Setting)
  | input
deriving DecidableEq

/-- How the usage of the program writes it. -/
def Subject.usage : Subject → String
  | switch w => "--" ++ w.long
  | setting s => "--" ++ s.long ++ " <" ++ s.long.toUpper ++ ">"
  | input => "<INPUT>"

inductive Subcommand where
  | repl | tokens | help
deriving DecidableEq

namespace Subcommand

def name : Subcommand → String
  | repl => "repl"
  | tokens => "tokens"
  | help => "help"

def ofName? (w : String) : Option Subcommand := [repl, tokens, help].find? fun c => c.name = w

end Subcommand

end MonkeyScan.CommandLine
