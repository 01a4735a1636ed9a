import MonkeyScan.Pattern.Class

/-!
# Reading a pattern

The written form of a pattern is read from the left. A `Reader` holds the parts since the last bar,
the alternatives in front of it, and the groups that are open around them. A repetition takes the
last part; a bar and a parenthesis gather all of them.
-/

namespace MonkeyScan.Pattern

/-! ## Flags -/

/-- The flags of a group, and the minus signs between them, up to a colon or a parenthesis; those
read so far stand in `seen`, the last one first. -/
def flags (seen : List (Option Flag × Extent)) :
    List Char → Except Problem (List (Option Flag × Extent) × List Char)
  | [] => refuse .flagsUnclosed [] []
  | c :: cs =>
    let here := Extent.between (c :: cs) cs
    if c = ':' ∨ c = ')' then
      match seen with
      | (none, e) :: _ => .error ⟨.flagDanglingMinus, e, none⟩
      | _ => .ok (seen.reverse, c :: cs)
    else if c = '-' then
      match seen.find? fun s => s.1.isNone with
      | some (_, e) => .error ⟨.flagMinusRepeated, here, some e⟩
      | none => flags ((none, here) :: seen) cs
    else match Flag.ofChar? c with
      | none => refuse .flagUnknown (c :: cs) cs
      | some f =>
        match seen.find? fun s => s.1 = some f with
        | some (_, e) => .error ⟨.flagRepeated, here, some e⟩
        | none => flags ((some f, here) :: seen) cs

/-- Flags are set up to a minus sign, and from there on they are taken back. -/
def settings (value : Bool) : List (Option Flag) → List Setting
  | [] => []
  | none :: fs => settings false fs
  | some f :: fs => ⟨f, value⟩ :: settings value fs

/-- The value that a list of settings gives a flag, if it gives one. -/
def settingOf? (f : Flag) (l : List Setting) : Option Bool :=
  (l.find? fun s => s.flag = f).map Setting.value

/-! ## Names of groups -/

/-- Characters that a name may begin with; those beyond ASCII are not told apart. -/
def isNameStart (c : Char) : Bool := c = '_' || c.isAlpha || 0x80 ≤ c.toNat

def isNameRest (c : Char) : Bool :=
  isNameStart c || c.isDigit || c = '.' || c = '[' || c = ']'

/-- The name of a group, up to an angle bracket. -/
def groupName (cs : List Char) : Except Problem (List Char × List Char) :=
  match cs with
  | [] => refuse .nameUnclosed [] []
  | c :: after =>
    if c ≠ '>' ∧ !isNameStart c then refuse .nameCharacter cs after
    else
      let name := cs.takeWhile isNameRest
      match cs.dropWhile isNameRest with
      | [] => refuse .nameUnclosed [] []
      | '>' :: rest => if name.isEmpty then refuse .nameEmpty cs cs else .ok (name, rest)
      | c :: rest => refuse .nameCharacter (c :: rest) rest

/-! ## The reader -/

/-- A group that is open: what was left at its parenthesis, its flags, and what to go on with
behind it. -/
structure OpenGroup where
  start : List Char
  settings : List Setting
  spaced : Bool
  parts : List Form
  alternatives : Option Form

structure Reader where
  rest : List Char
  spaced : Bool
  /-- The parts since the last bar, the last one first. -/
  parts : List Form
  alternatives : Option Form
  outer : List OpenGroup
  names : List (List Char × Extent)

namespace Reader

def start (text : List Char) : Reader := ⟨text, false, [], none, [], []⟩

/-- All that was read of the innermost group, as one form. -/
def body (r : Reader) : Form :=
  let sequence := r.parts.foldl (fun f part => .seq part f) .empty
  match r.alternatives with
  | none => sequence
  | some f => .alt f sequence

def add (r : Reader) (f : Form) (rest : List Char) : Reader :=
  { r with parts := f :: r.parts, rest := rest }

/-- Opens a group at `start`; what is in it follows at `rest`. -/
def openGroup (r : Reader) (start : List Char) (l : List Setting) (rest : List Char) : Reader :=
  { r with
    rest := rest
    spaced := (settingOf? .spaced l).getD r.spaced
    parts := []
    alternatives := none
    outer := ⟨start, l, r.spaced, r.parts, r.alternatives⟩ :: r.outer }

/-- Opens a group with a name, which begins at `cs`. -/
def nameGroup (r : Reader) (start cs : List Char) : Except Problem Reader := do
  let (name, rest) ← groupName cs
  let extent : Extent := ⟨cs.length, rest.length + 1⟩
  match r.names.lookup name with
  | some e => .error ⟨.nameRepeated, extent, some e⟩
  | none => return { r.openGroup start [] rest with names := (name, extent) :: r.names }

/-- What a parenthesis begins: a group, perhaps with flags or a name, or flags for what follows. -/
def parenthesis (r : Reader) (start after : List Char) : Except Problem Reader := do
  match skip r.spaced after with
  | '?' :: '=' :: rest | '?' :: '!' :: rest | '?' :: '<' :: '=' :: rest
  | '?' :: '<' :: '!' :: rest => refuse .lookaround start rest
  | '?' :: 'P' :: '<' :: cs | '?' :: '<' :: cs => r.nameGroup start cs
  | '?' :: cs =>
    if cs.isEmpty then refuse .groupUnclosed start after
    else
      let (seen, rest) ← flags [] cs
      let l := settings true (seen.map Prod.fst)
      match rest with
      | ')' :: rest =>
        if seen.isEmpty then refuse .nothingToRepeat ('?' :: cs) ('?' :: cs)
        else
          return { r.add (.flags l) rest with spaced := (settingOf? .spaced l).getD r.spaced }
      | _ => return r.openGroup start l rest.tail
  | inside => return r.openGroup start [] inside

/-- Closes the innermost group at its parenthesis. -/
def closeGroup (r : Reader) (cs after : List Char) : Except Problem Reader :=
  match r.outer with
  | [] => refuse .groupUnopened cs after
  | g :: outer =>
    .ok { r with
      rest := after
      spaced := g.spaced
      parts := .group g.settings r.body :: g.parts
      alternatives := g.alternatives
      outer := outer }

/-- The part that a repetition at `cs` takes, and the reader without it. -/
def lastPart (r : Reader) (cs : List Char) : Except Problem (Form × Reader) :=
  match r.parts with
  | [] | .flags _ :: _ => refuse .nothingToRepeat cs cs
  | f :: parts => .ok (f, { r with parts := parts })

/-- What is behind a repetition, where a question mark only says which match is tried first. -/
def behindRepetition : List Char → List Char
  | '?' :: rest => rest
  | cs => cs

/-- The sign of a repetition at the beginning of `cs`, with its bounds. -/
def repetition (r : Reader) (cs : List Char) (least : Nat) (most : Option Nat) :
    Except Problem Reader := do
  let (f, r) ← r.lastPart cs
  return r.add (.repeated f least most) (behindRepetition cs.tail)

/-- The bounds of a repetition in braces, and what is left at the closing brace. -/
def bounds (spaced : Bool) (cs : List Char) :
    Except Problem ((Nat × Option Nat) × List Char) := do
  let inside := next spaced cs
  let (least, r) := count spaced inside
  if inside.isEmpty || r.isEmpty then refuse .countUnclosed cs []
  else match r with
    | ',' :: _ =>
      match next spaced r with
      | [] => refuse .countUnclosed cs []
      | '\x7d' :: rest => return ((← least, none), '\x7d' :: rest)
      | r =>
        let least ← least
        let (most, rest) := count spaced r
        return ((least, some (← most)), rest)
    | r =>
      let least ← least
      return ((least, some least), r)

/-- The repetition in braces at the beginning of `cs`. -/
def counted (r : Reader) (cs : List Char) : Except Problem Reader := do
  let (f, r) ← r.lastPart cs
  let ((least, most), rest) ← bounds r.spaced cs
  match rest with
  | '\x7d' :: _ =>
    let rest := behindRepetition (next r.spaced rest)
    if most.any (· < least) then refuse .countsReversed cs rest
    else return r.add (.repeated f least most) rest
  | _ => refuse .countUnclosed cs rest

/-- Takes one part or sign at the beginning of `cs`, which is not empty. -/
def take (r : Reader) (cs : List Char) : Except Problem Reader := do
  let one (a : Atom) : Reader := r.add (.atom a (.between cs cs.tail)) cs.tail
  match cs with
  | '(' :: after => r.parenthesis cs after
  | ')' :: after => r.closeGroup cs after
  | '|' :: after => return { r with rest := after, alternatives := some r.body, parts := [] }
  | '[' :: _ =>
    let (f, rest) ← bracketed r.spaced cs
    return r.add f rest
  | '?' :: _ => r.repetition cs 0 (some 1)
  | '*' :: _ => r.repetition cs 0 none
  | '+' :: _ => r.repetition cs 1 none
  | '\x7b' :: _ => r.counted cs
  | '\\' :: _ =>
    let (a, rest) ← escape r.spaced cs
    return r.add (.atom a (.between cs rest)) rest
  | '.' :: _ => return one .any
  | '^' :: _ => return one (.assertion .lineStart)
  | '$' :: _ => return one (.assertion .lineEnd)
  | c :: _ => return one (.char c false)
  | [] => return r

/-- The form of a pattern that was read to its end. -/
def finish (r : Reader) : Except Problem Form :=
  match r.outer with
  | [] => .ok r.body
  | g :: _ => refuse .groupUnclosed g.start g.start.tail

/-- Reads to the end. Each part leaves less to read. -/
def read (r : Reader) : Except Problem Form :=
  match skip r.spaced r.rest with
  | [] => r.finish
  | c :: cs =>
    match r.take (c :: cs) with
    | .error p => .error p
    | .ok next => if next.rest.length < r.rest.length then next.read else next.finish
termination_by r.rest.length

end Reader

/-- The written form of a pattern. -/
def form (text : List Char) : Except Problem Form := (Reader.start text).read

end MonkeyScan.Pattern
