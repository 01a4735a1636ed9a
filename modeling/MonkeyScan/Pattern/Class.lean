import MonkeyScan.Pattern.Escape

/-!
# Classes in brackets

A class lists characters, ranges and other classes between brackets. Pairs of signs between lists
are operations on sets, which are done from the left. Classes are nested, so a reader of one keeps
the classes around it.
-/

namespace MonkeyScan.Pattern

/-- A class that is open: what was left to read at its bracket and behind its beginning, the
operation whose left side is read, and what is listed since. -/
structure OpenClass where
  start : List Char
  begun : List Char
  negated : Bool
  left : Option (ClassForm × SetOperation)
  listed : ClassForm

namespace OpenClass

def add (k : OpenClass) (f : ClassForm) : OpenClass := { k with listed := k.listed.union f }

/-- What was read of the class, as one form. -/
def form (k : OpenClass) : ClassForm :=
  match k.left with
  | none => k.listed
  | some (l, o) => .operation o l k.listed

/-- The class behind the sign of an operation. -/
def operate (k : OpenClass) (o : SetOperation) : OpenClass :=
  { k with left := some (k.form, o), listed := .nothing }

def unclosed {α : Type} (k : OpenClass) : Except Problem α := refuse .classUnclosed k.start k.begun

/-- Opens a class at its bracket. Hyphens at its beginning, and a closing bracket there, are
characters of the class. -/
def read (spaced : Bool) (cs : List Char) : Except Problem (OpenClass × List Char) :=
  let inside := next spaced cs
  let negated := inside.head? = some '^'
  let r := if negated then next spaced inside else inside
  let (hyphens, rest) := gather (· = '-') spaced r
  if r.isEmpty then refuse .classUnclosed cs r
  else if rest.isEmpty then refuse .classUnclosed cs cs
  else
    let first (c : Char) : ClassForm := .atom (.char c false) (.between r r.tail)
    match hyphens, rest with
    | [], ']' :: _ =>
      let behind := next spaced rest
      if behind.isEmpty then refuse .classUnclosed cs behind
      else .ok (⟨cs, behind, negated, none, first ']'⟩, behind)
    | [], _ => .ok (⟨cs, rest, negated, none, .nothing⟩, rest)
    | _, _ => .ok (⟨cs, rest, negated, none, first '-'⟩, rest)

end OpenClass

/-- A character or an escape in a class. -/
def classAtom (spaced : Bool) (cs : List Char) : Except Problem (Atom × List Char) :=
  match cs with
  | [] => refuse .classUnclosed [] []
  | '\\' :: _ => escape spaced cs
  | c :: after => .ok (.char c false, after)

/-- A member of a class, or a range of members. A hyphen in front of the closing bracket or of
another hyphen makes no range. -/
def member (spaced : Bool) (k : OpenClass) (cs : List Char) :
    Except Problem (ClassForm × List Char) := do
  let (first, behind) ← classAtom spaced cs
  let r := skip spaced behind
  if r.isEmpty then k.unclosed
  else
    let follower := (next spaced r).head?
    if r.head? ≠ some '-' || follower = some ']' || follower = some '-' then
      match first with
      | .assertion _ => refuse .classEscape cs behind
      | a => return (.atom a (.between cs behind), r)
    else
      let s := next spaced r
      if s.isEmpty then k.unclosed
      else
        let (last, rest) ← classAtom spaced s
        match first, last with
        | .char a aByte, .char b bByte =>
          if a ≤ b then return (.range a b aByte bByte (.between cs rest), rest)
          else refuse .classRangeReversed cs rest
        | .char .., _ => refuse .classRangeBoundary s rest
        | _, _ => refuse .classRangeBoundary cs behind

/-- The name of a class between brackets and colons, if it is one. -/
def namedClass? (cs : List Char) : Option (ClassForm × List Char) :=
  match cs with
  | '[' :: ':' :: r =>
    let negated := r.head? = some '^'
    let r := if negated then r.tail else r
    match r.dropWhile (· ≠ ':') with
    | ':' :: ']' :: rest =>
      (ClassName.ofName? (String.ofList (r.takeWhile (· ≠ ':')))).map fun n =>
        (.named n negated (.between cs rest), rest)
    | _ => none
  | _ => none

/-- Reading a class leads to more of it, or to its end. -/
inductive ClassStep where
  | more (k : OpenClass) (outer : List OpenClass) (rest : List Char)
  | done (f : Form) (rest : List Char)

/-- Closes a class at its closing bracket. -/
def close (k : OpenClass) (after : List Char) : List OpenClass → ClassStep
  | [] => .done (.bracket k.form k.negated (.between k.start after)) after
  | o :: outer =>
    .more (o.add (.bracketed k.form k.negated (.between k.start after))) outer after

def classStep (spaced : Bool) (k : OpenClass) (outer : List OpenClass) (cs : List Char) :
    Except Problem ClassStep :=
  match skip spaced cs with
  | [] => k.unclosed
  | '[' :: after =>
    match namedClass? ('[' :: after) with
    | some (f, rest) => .ok (.more (k.add f) outer rest)
    | none => (OpenClass.read spaced ('[' :: after)).map fun (inner, rest) =>
        .more inner (k :: outer) rest
  | ']' :: after => .ok (close k after outer)
  | '&' :: '&' :: rest => .ok (.more (k.operate .intersection) outer rest)
  | '-' :: '-' :: rest => .ok (.more (k.operate .difference) outer rest)
  | '~' :: '~' :: rest => .ok (.more (k.operate .symmetricDifference) outer rest)
  | cs => (member spaced k cs).map fun (f, rest) => .more (k.add f) outer rest

/-- Reads on in a class. Each step leaves less to read. -/
def classRest (spaced : Bool) (k : OpenClass) (outer : List OpenClass) (cs : List Char) :
    Except Problem (Form × List Char) :=
  match classStep spaced k outer cs with
  | .error p => .error p
  | .ok (.done f rest) => .ok (f, rest)
  | .ok (.more k outer rest) =>
    if rest.length < cs.length then classRest spaced k outer rest else k.unclosed
termination_by cs.length

/-- The class that begins with the bracket at the beginning of `cs`. -/
def bracketed (spaced : Bool) (cs : List Char) : Except Problem (Form × List Char) := do
  let (k, rest) ← OpenClass.read spaced cs
  classRest spaced k [] rest

end MonkeyScan.Pattern
