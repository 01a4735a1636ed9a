import MonkeyScan.CommandLine.Option
import MonkeyScan.Styled

/-!
# Misuse of the command line

The ways in which a command line can be wrong, each with the message that its user gets. An
argument is quoted in the message as it stands.
-/

namespace MonkeyScan.CommandLine

inductive Misuse where
  /-- A word where only the name of a subcommand may stand. -/
  | unknownSubcommand (word : String)
  /-- An option that there is not, or a word where no more may stand. -/
  | unexpected (arg : String)
  | missingInput
  | missingValue (of : Subject)
  | invalidValue (value : String) (of : Subject)
  | repeated (what : Subject)
  /-- A value for a switch. -/
  | unneededValue (value : String) (of : Subject)
deriving DecidableEq

namespace Misuse

/-- What is wrong stands out in yellow, and what it is about in bold. -/
def message : Misuse → Styled
  | unknownSubcommand word => "unrecognized subcommand '" ++ wrong word ++ "'"
  | unexpected arg => "unexpected argument '" ++ wrong arg ++ "' found"
  | missingInput => "the following required arguments were not provided:"
  | missingValue s => "a value is required for '" ++ wrong s.usage ++ "' but none was supplied"
  | invalidValue value s => "invalid value '" ++ wrong value ++ "' for '" ++ right s.usage ++ "'"
  | repeated s => "the argument '" ++ wrong s.usage ++ "' cannot be used multiple times"
  | unneededValue value s =>
    "unexpected value '" ++ wrong value ++ "' for '" ++ right s.usage ++
      "' found; no more were expected"
where
  wrong : String → Styled := .inStyle .yellow
  right : String → Styled := .inStyle .bold

/-- The line that tells the user. -/
def line (m : Misuse) : Styled := .inStyle .boldRed "error:" ++ " " ++ m.message ++ "\n"

end Misuse

end MonkeyScan.CommandLine
