import MonkeyScan.Log
import MonkeyScan.Pattern.Meaning
import MonkeyScan.Text.Space

/-!
# Filters of the log

A `Filter` says which records are kept: a list of levels for paths of the program, of which the
longest path that a record's origin starts with decides, and perhaps a pattern that the message
must hold. It is read from a text of directives with commas between, and of the pattern behind a
slash. What cannot be understood is left out, and a warning says so.
-/

namespace MonkeyScan.Log

/-- Keeps the records of a path, or of the whole program, up to a level, or none of them. -/
structure Directive where
  path : Option String
  level : Option Level
deriving DecidableEq

/-- The path that a record must come from; the whole program is at the empty path. -/
def Directive.root (d : Directive) : List Char := (d.path.getD "").toList

/-- A list of directives, and the pattern of the messages that are kept. -/
structure Filter where
  directives : List Directive
  pattern : Option Pattern

namespace Filter

/-- The filter that keeps all records up to a level. -/
def ofLevel (l : Level) : Filter := ⟨[⟨none, some l⟩], none⟩

/-- The directive for a record: the last one of the longest path that its origin starts with. -/
def deciding? (f : Filter) (o : Origin) : Option Directive :=
  (f.directives.filter fun d => d.root.isPrefixOf o.path.toList).foldl (fun best d =>
    match best with
    | some b => if b.root.length ≤ d.root.length then some d else some b
    | none => some d) none

def allows (f : Filter) (r : Record) : Bool :=
  match (f.deciding? r.origin).bind Directive.level with
  | some l => r.level.detail ≤ l.detail && f.pattern.all fun p => p.isIn r.message
  | none => false

/-! ## Reading -/

/-- A level as a filter names it; "off" keeps nothing. -/
def levelOfName? (w : String) : Option (Option Level) :=
  if w.toUpper = "OFF" then some none else (Level.ofName? w).map some

/-- What a filter warns about text that it cannot use. -/
def invalid (spec : String) : String := "invalid logging spec '" ++ spec ++ "'"

/-- One directive: a level, a path, or a path and a level with an equals sign between. A path alone
keeps all its records. -/
def directive (item : String) : Except String Directive :=
  match item.splitOn "=" with
  | [word] =>
    match levelOfName? word with
    | some l => .ok ⟨none, l⟩
    | none => .ok ⟨some word, some .trace⟩
  | [path, word] =>
    if Text.trim word = "" then .ok ⟨some path, some .trace⟩
    else match levelOfName? (Text.trim word) with
      | some l => .ok ⟨some path, l⟩
      | none => .error (invalid (Text.trim word))
  | _ => .error (invalid item)

/-- Puts a directive in the place of the one of the same path, or at the end. -/
def insert (d : Directive) : List Directive → List Directive
  | [] => [d]
  | e :: ds => if e.path = d.path then d :: ds else e :: insert d ds

/-- A filter as it is read from a text, with the warnings. -/
structure Reading where
  filter : Filter
  warnings : List String

/-- The filter of some directives; without any it keeps the errors. -/
def ofDirectives (ds : List Directive) (pattern : Option Pattern) : Filter :=
  match ds.foldl (fun ds d => insert d ds) [] with
  | [] => ⟨[⟨none, some .error⟩], pattern⟩
  | ds => ⟨ds, pattern⟩

/-- Reads directives with commas between. -/
def readDirectives (spec : String) : List Directive × List String :=
  let items := ((spec.splitOn ",").map Text.trim).filter (· ≠ "")
  let read := items.map directive
  (read.filterMap fun
      | .ok d => some d
      | .error _ => none,
    read.filterMap fun
      | .ok _ => none
      | .error w => some w)

def read (spec : String) : Reading :=
  match spec.splitOn "/" with
  | [spec] =>
    let (ds, warnings) := readDirectives spec
    ⟨ofDirectives ds none, warnings⟩
  | [spec, text] =>
    let (ds, warnings) := readDirectives spec
    match Pattern.read text with
    | .ok p => ⟨ofDirectives ds (some p), warnings⟩
    | .error why => ⟨ofDirectives ds none, warnings ++ ["invalid regex filter - " ++ why]⟩
  | _ => ⟨ofDirectives [] none, [invalid spec ++ " (too many '/'s)"]⟩

/-- The lines that tell of the warnings. -/
def Reading.lines (r : Reading) : String :=
  String.join (r.warnings.map fun w => "warning: " ++ w ++ ", ignoring it\n")

end Filter

end MonkeyScan.Log
