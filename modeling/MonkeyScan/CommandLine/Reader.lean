import MonkeyScan.CommandLine.Request
import MonkeyScan.CommandLine.Usage
import MonkeyScan.Session

/-!
# Reading a command line

A command line is read argument by argument, from the left. A `Reader` is what has been understood
so far: which subcommand the arguments are for, the options given, and the last value, which is
not yet checked. A value is checked when the next option or input begins or when the arguments
end, so that an argument that cannot be understood at all is found before a wrong value in front
of it.

Help and version are answered where they stand, whatever follows. Behind two hyphens alone, no
argument is an option.
-/

namespace MonkeyScan.CommandLine

/-! ## Scopes -/

/-- What the arguments are for: the program, a subcommand, or help on a topic. -/
inductive Scope where
  | program | repl | tokens
  | help (topic : Topic)
deriving DecidableEq

namespace Scope

def switches : Scope → List Switch
  | program => [.verbose, .help, .version]
  | repl => [.noPositions, .verbose, .help]
  | tokens => [.denyIllegal, .verbose, .help]
  | help _ => []

def settings : Scope → List Setting
  | repl => [.prompt]
  | tokens => [.format]
  | _ => []

def topic : Scope → Topic
  | program => .program
  | repl => .repl
  | tokens => .tokens
  | help t => t

end Scope

/-! ## Reading -/

/-- The options and the input that a scope was given, checked. -/
structure Given where
  switches : List Switch
  prompt : Option String
  format : Option Dump.Format
  input : Option String

def Given.none : Given := ⟨[], .none, .none, .none⟩

/-- A value that is not yet checked, or a setting whose value may still come. -/
inductive Pending where
  | setting (s : Setting) (value : Option String)
  | input (path : String)

structure Reader where
  scope : Scope
  /-- Whether the program was to be verbose before its subcommand was named. -/
  verbose : Bool
  given : Given
  pending : Option Pending
  optionsEnded : Bool

/-- What an argument leads to: more reading, or a request that is answered at once. -/
inductive Step where
  | more (r : Reader)
  | done (q : Request)

namespace Given

/-- Records the value of a setting. -/
def set (g : Given) (value : String) : Setting → Except Misuse Given
  | .prompt =>
    if g.prompt.isSome then .error (.repeated (.setting .prompt))
    else .ok { g with prompt := some value }
  | .format =>
    if g.format.isSome then .error (.repeated (.setting .format))
    else match Dump.Format.ofName? value with
      | some f => .ok { g with format := some f }
      | .none =>
        if value = "" then .error (.missingValue (.setting .format))
        else .error (.invalidValue value (.setting .format))

end Given

namespace Reader

def start : Reader := ⟨.program, false, .none, none, false⟩

/-- The reader for the arguments behind a subcommand. -/
def enter (r : Reader) (scope : Scope) : Reader :=
  ⟨scope, r.given.switches.contains .verbose, .none, none, false⟩

/-- Checks the pending value. -/
def settle (r : Reader) : Except Misuse Reader :=
  match r.pending with
  | none => .ok r
  | some (.setting s none) => .error (.missingValue (.setting s))
  | some (.setting s (some value)) =>
    (r.given.set value s).map fun g => { r with given := g, pending := none }
  | some (.input path) =>
    if path = "" then .error (.missingValue .input)
    else .ok { r with given := { r.given with input := some path }, pending := none }

/-- Takes a switch; `full` says that its long name was used. -/
def switch (r : Reader) (w : Switch) (full : Bool) : Except Misuse Step := do
  let r ← r.settle
  match w with
  | .help => return .done (.help r.scope.topic full)
  | .version => return .done .version
  | w =>
    if r.given.switches.contains w then throw (.repeated (.switch w))
    else return .more { r with given := { r.given with switches := w :: r.given.switches } }

/-- Takes a setting. A value behind an equals sign is checked at once, any other when it is
there. -/
def setting (r : Reader) (s : Setting) (attached : Option String) : Except Misuse Step := do
  let r ← r.settle
  let r := { r with pending := some (.setting s attached) }
  match attached with
  | some _ => return .more (← r.settle)
  | none => return .more r

/-- Takes the argument of two hyphens and `body`. -/
def long (r : Reader) (body : List Char) : Except Misuse Step :=
  let name := String.ofList (body.takeWhile (· ≠ '='))
  let attached :=
    match body.dropWhile (· ≠ '=') with
    | [] => none
    | _ :: value => some (String.ofList value)
  match r.scope.switches.find? fun w => w.long = name with
  | some w =>
    match attached with
    | some value => .error (.unneededValue value (.switch w))
    | none => r.switch w true
  | none =>
    match r.scope.settings.find? fun s => s.long = name with
    | some s => r.setting s attached
    | none => .error (.unexpected ("--" ++ name))

/-- Takes the letters of an argument of one hyphen, each as a switch. -/
def letters (r : Reader) : List Char → Except Misuse Step
  | [] => .ok (.more r)
  | c :: cs =>
    match r.scope.switches.find? fun w => w.letter? = some c with
    | none => .error (.unexpected (String.ofList ['-', c]))
    | some w =>
      match r.switch w false with
      | .ok (.more r) => r.letters cs
      | other => other

/-- Takes an argument that is no option and no value of one. -/
def word (r : Reader) (arg : String) : Except Misuse Step :=
  match r.scope, r.given.input, r.pending with
  | .tokens, some _, _ | .tokens, none, some (.input _) => .error (.unexpected arg)
  | .tokens, none, _ => r.settle.map fun r => .more { r with pending := some (.input arg) }
  | .program, _, _ =>
    if (Subcommand.ofName? arg).isSome then .error (.unexpected arg)
    else .error (.unknownSubcommand arg)
  | _, _, _ => .error (.unexpected arg)

/-- Takes a further word behind the subcommand that gives help. -/
def helpWord (r : Reader) (topic : Topic) (arg : String) : Except Misuse Step :=
  match topic, Subcommand.ofName? arg with
  | .program, some .repl => .ok (.more { r with scope := .help .repl })
  | .program, some .tokens => .ok (.more { r with scope := .help .tokens })
  | .program, some .help => .ok (.more { r with scope := .help .help })
  | _, _ => .error (.unknownSubcommand arg)

/-- Takes an argument where options may stand. -/
def argument (r : Reader) (arg : String) : Except Misuse Step :=
  match arg.toList with
  | ['-', '-'] => .ok (.more { r with optionsEnded := true })
  | '-' :: '-' :: body => r.long body
  | '-' :: c :: cs => r.letters (c :: cs)
  | _ =>
    match r.pending with
    | some (.setting s none) => .ok (.more { r with pending := some (.setting s (some arg)) })
    | _ => r.word arg

def step (r : Reader) (arg : String) : Except Misuse Step :=
  match r.scope with
  | .help topic => r.helpWord topic arg
  | .program =>
    if r.optionsEnded then r.word arg
    else match Subcommand.ofName? arg with
      | some .repl => .ok (.more (r.enter .repl))
      | some .tokens => .ok (.more (r.enter .tokens))
      | some .help => .ok (.more (r.enter (.help .program)))
      | none => r.argument arg
  | _ => if r.optionsEnded then r.word arg else r.argument arg

/-- The request of a command line that has been read to its end. Without a subcommand a session
is started. -/
def finish (r : Reader) : Except Misuse Request := do
  let r ← r.settle
  let verbose := r.verbose || r.given.switches.contains .verbose
  match r.scope with
  | .help topic => return .help topic true
  | .program => return .run verbose (.repl Session.defaultPrompt true)
  | .repl =>
    return .run verbose
      (.repl (r.given.prompt.getD Session.defaultPrompt) (!r.given.switches.contains .noPositions))
  | .tokens =>
    match r.given.input with
    | none => throw .missingInput
    | some path =>
      return .run verbose
        (.tokens path (r.given.format.getD .text) (r.given.switches.contains .denyIllegal))

def read (r : Reader) : List String → Except Misuse Request
  | [] => r.finish
  | arg :: args =>
    match r.step arg with
    | .error e => .error e
    | .ok (.done q) => .ok q
    | .ok (.more r) => r.read args

end Reader

end MonkeyScan.CommandLine
