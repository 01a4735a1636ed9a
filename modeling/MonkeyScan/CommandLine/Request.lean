import MonkeyScan.CommandLine.Help
import MonkeyScan.Dump

/-!
# Requests of the command line

What a command line can ask for: a session, a dump of a file, help on a topic or the version.
-/

namespace MonkeyScan.CommandLine

inductive Command where
  | repl (prompt : String) (showPositions : Bool)
  | tokens (input : String) (format : Dump.Format) (denyIllegal : Bool)
deriving DecidableEq

inductive Request where
  | run (verbose : Bool) (command : Command)
  | help (topic : Topic) (full : Bool)
  | version
deriving DecidableEq

end MonkeyScan.CommandLine
