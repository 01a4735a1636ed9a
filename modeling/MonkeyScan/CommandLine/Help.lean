import MonkeyScan.Styled

/-!
# Help texts

What the program says about its own use. Only the dump has more to say when asked in full. The
headings stand out, and so does what a user would type as it is written.
-/

namespace MonkeyScan.CommandLine

/-- What help can be asked about. -/
inductive Topic where
  | program | repl | tokens | help
deriving DecidableEq

namespace Topic

/-- The lines one below the other. -/
def page : List Styled → Styled
  | [] => ⟨[]⟩
  | line :: lines => line ++ "\n" ++ page lines

def heading (text : String) : Styled := .inStyle .boldUnderlined text

/-- A word to be typed as it is. -/
def typed (word : String) : Styled := .inStyle .bold word

/-- The line that shows how a command is typed. -/
def usage (command arguments : String) : Styled :=
  heading "Usage:" ++ " " ++ typed command ++ " " ++ arguments

/-- A switch by its letter and its name. -/
def lettered (letter name : String) : Styled := "  " ++ typed letter ++ ", " ++ typed name

/-- An option by its name alone, under the names of those that have a letter. -/
def named (name : String) : Styled := "      " ++ typed name

/-- On the program. -/
def programText : Styled :=
  page [
    "The Monkey language scanner",
    "",
    usage "monkeylex" "[OPTIONS] [COMMAND]",
    "",
    heading "Commands:",
    "  " ++ typed "repl" ++ "    Start an interactive REPL that prints the tokens of each line",
    "  " ++ typed "tokens" ++ "  Dump every token of a source file",
    "  " ++ typed "help" ++ "    Print this message or the help of the given subcommand(s)",
    "",
    heading "Options:",
    lettered "-v" "--verbose" ++ "  Enable verbose output",
    lettered "-h" "--help" ++ "     Print help",
    lettered "-V" "--version" ++ "  Print version"]

/-- On the session. -/
def replText : Styled :=
  page [
    "Start an interactive REPL that prints the tokens of each line",
    "",
    usage "monkeylex repl" "[OPTIONS]",
    "",
    heading "Options:",
    named "--prompt" ++ " <PROMPT>  Prompt printed before each line [default: \">> \"]",
    named "--no-positions" ++ "     Print tokens without their positions",
    lettered "-v" "--verbose" ++ "          Enable verbose output",
    lettered "-h" "--help" ++ "             Print help"]

/-- On the dump, one row for each option. -/
def tokensBriefText : Styled :=
  page [
    "Dump every token of a source file",
    "",
    usage "monkeylex tokens" "[OPTIONS] <INPUT>",
    "",
    heading "Arguments:",
    "  <INPUT>  The source file to scan",
    "",
    heading "Options:",
    named "--format" ++
      " <FORMAT>  Output format [default: text] [possible values: text, json]",
    named "--deny-illegal" ++ "     Fail if the file contains illegal characters",
    lettered "-v" "--verbose" ++ "          Enable verbose output",
    lettered "-h" "--help" ++ "             Print help (see more with '--help')"]

/-- On the dump, with the meaning of each value. -/
def tokensFullText : Styled :=
  page [
    "Dump every token of a source file",
    "",
    usage "monkeylex tokens" "[OPTIONS] <INPUT>",
    "",
    heading "Arguments:",
    "  <INPUT>",
    "          The source file to scan",
    "",
    heading "Options:",
    named "--format" ++ " <FORMAT>",
    "          Output format",
    "",
    "          Possible values:",
    "          - " ++ typed "text" ++ ": One token per line",
    "          - " ++ typed "json" ++ ": A JSON array of tokens",
    "          ",
    "          [default: text]",
    "",
    named "--deny-illegal",
    "          Fail if the file contains illegal characters",
    "",
    lettered "-v" "--verbose",
    "          Enable verbose output",
    "",
    lettered "-h" "--help",
    "          Print help (see a summary with '-h')"]

/-- On the help itself. -/
def helpText : Styled :=
  page [
    "Print this message or the help of the given subcommand(s)",
    "",
    usage "monkeylex help" "[COMMAND]...",
    "",
    heading "Arguments:",
    "  [COMMAND]...  Print help for the subcommand(s)"]

/-- The help on a topic, in full or in brief. -/
def text (full : Bool) : Topic → Styled
  | program => programText
  | repl => replText
  | tokens => if full then tokensFullText else tokensBriefText
  | help => helpText

end Topic

end MonkeyScan.CommandLine
