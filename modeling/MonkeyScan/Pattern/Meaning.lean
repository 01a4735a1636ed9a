import MonkeyScan.Pattern
import MonkeyScan.Pattern.Reader

/-!
# What a pattern means

The written form of a pattern becomes the pattern, from the left: a flag holds for what follows it
in its group. Patterns are of characters, or of bytes where the flag for Unicode is taken back;
only text can be looked through, so bytes that are no ASCII are refused. So are the classes,
properties, cases and word edges of Unicode, for which there are no tables.
-/

namespace MonkeyScan.Pattern

/-- The flags that decide what a part means. -/
structure Mode where
  caseless : Bool := false
  multiline : Bool := false
  dotAll : Bool := false
  unicode : Bool := true
  anyLineEnd : Bool := false

namespace Mode

def apply (m : Mode) (s : Setting) : Mode :=
  match s.flag with
  | .caseless => { m with caseless := s.value }
  | .multiline => { m with multiline := s.value }
  | .dotAll => { m with dotAll := s.value }
  | .unicode => { m with unicode := s.value }
  | .anyLineEnd => { m with anyLineEnd := s.value }
  | .lazily | .spaced => m

/-- A broken rule of which the form tells the extent. -/
def refuseAt {α : Type} (c : Cause) (e : Extent) : Except Problem α := .error ⟨c, e, none⟩

/-- A set in the mode of bytes, all of them ASCII. -/
def asciiOnly (e : Extent) (set : CharSet) : Except Problem CharSet :=
  if (List.range 0x80).any fun k => set.contains (k + 0x80) then refuseAt .notUtf8 e
  else .ok (set.intersection (.range 0 0x7f))

/-- A set under the flag for case, and then negated. -/
def finish (m : Mode) (e : Extent) (negated : Bool) (set : CharSet) : Except Problem CharSet := do
  let negate (set : CharSet) : CharSet := if negated then set.complement else set
  if m.unicode then
    if m.caseless then refuseAt .foldingUnavailable e else return negate set
  else asciiOnly e (negate (if m.caseless then set.bothCases else set))

/-- The characters of a named class. -/
def named (m : Mode) (n : ClassName) (negated : Bool) (e : Extent) : Except Problem CharSet :=
  let set := CharSet.ofRanges n.ranges
  if m.unicode then refuseAt .classUnavailable e
  else asciiOnly e (if negated then set.complement else set)

/-- The abbreviations that are asked for as values, not as properties. -/
def valueNames : List String := ["cf", "sc", "lc"]

/-- The name of a property without what is not compared: case, blanks, hyphens, underscores and
a leading "is". -/
def comparedName (name : List Char) : String :=
  let rest :=
    match name with
    | i :: s :: rest => if i.toLower = 'i' ∧ s.toLower = 's' then rest else name
    | _ => name
  String.ofList ((rest.filter fun c => c.toNat < 0x80 && c ≠ ' ' && c ≠ '_' && c ≠ '-').map
    Char.toLower)

/-- There are no properties, so that only the reason differs. -/
def property {α : Type} (m : Mode) (name : List Char) (hasValue : Bool) (e : Extent) :
    Except Problem α :=
  if !m.unicode then refuseAt .unicodeRefused e
  else if !hasValue && valueNames.contains (comparedName name) then refuseAt .propertyValueUnknown e
  else refuseAt .propertyUnknown e

/-- Whether a character may stand in a class. -/
def codeOf (m : Mode) (c : Char) (asByte : Bool) (e : Extent) : Except Problem Nat :=
  if m.unicode || asByte || c.toNat < 0x80 then .ok c.toNat else refuseAt .unicodeRefused e

/-- The members of a class. -/
def members (m : Mode) : ClassForm → Except Problem CharSet
  | .nothing => .ok .none
  | .atom (.char c asByte) e => (m.codeOf c asByte e).map .single
  | .atom (.named n negated) e => m.named n negated e
  | .atom (.property name hasValue) e => m.property name hasValue e
  | .atom _ e => refuseAt .classEscape e
  | .range a b aByte bByte e => do return .range (← m.codeOf a aByte e) (← m.codeOf b bByte e)
  | .named n negated e => m.finish e negated (.ofRanges n.ranges)
  | .union a b => do return (← m.members a).union (← m.members b)
  | .bracketed a negated e => do m.finish e negated (← m.members a)
  | .operation o a b => do
    let cased (s : CharSet) : CharSet := if m.caseless then s.bothCases else s
    let left := cased (← m.members a)
    let right := cased (← m.members b)
    match o with
    | .intersection => return left.intersection right
    | .difference => return left.difference right
    | .symmetricDifference => return left.symmetricDifference right

/-- The condition that an assertion stands for. -/
def look (m : Mode) : Assertion → Look
  | .lineStart =>
    if m.multiline then (if m.anyLineEnd then .anyLineStart else .lineStart) else .textStart
  | .lineEnd =>
    if m.multiline then (if m.anyLineEnd then .anyLineEnd else .lineEnd) else .textEnd
  | .textStart => .textStart
  | .textEnd => .textEnd
  | .wordEdge => .wordEdge
  | .noWordEdge => .noWordEdge
  | .wordStart => .wordStart
  | .wordEnd => .wordEnd
  | .noWordBefore => .noWordBefore
  | .noWordBehind => .noWordBehind

/-- Whether an assertion asks what a word is. -/
def asksForWords : Assertion → Bool
  | .lineStart | .lineEnd | .textStart | .textEnd => false
  | _ => true

/-- What a dot stands for. -/
def anyChar (m : Mode) : CharSet :=
  if m.dotAll then CharSet.none.complement
  else if m.anyLineEnd then (CharSet.ofRanges [(10, 10), (13, 13)]).complement
  else (CharSet.single 10).complement

/-- What a character or an escape stands for. -/
def atom (m : Mode) (a : Atom) (e : Extent) : Except Problem Pattern :=
  match a with
  | .char c asByte =>
    if !m.unicode && asByte && 0x80 ≤ c.toNat then refuseAt .notUtf8 e
    else if !m.caseless then .ok (.one (.single c.toNat))
    else if m.unicode then refuseAt .foldingUnavailable e
    else .ok (.one (CharSet.single c.toNat).bothCases)
  | .any => if m.unicode then .ok (.one m.anyChar) else refuseAt .notUtf8 e
  | .assertion a => .ok (.look (m.look a))
  | .named n negated => (m.named n negated e).map .one
  | .property name hasValue => m.property name hasValue e

end Mode

/-- A pattern, the mode behind it, and whether it asks what a word of Unicode is. -/
structure Meaning where
  pattern : Pattern
  mode : Mode
  asksForWords : Bool

/-- What a form means in a mode. The mode that a group ends with is not that behind it. -/
def Form.meaning (m : Mode) : Form → Except Problem Meaning
  | .empty => .ok ⟨.empty, m, false⟩
  | .atom a e => do
    let asks := match a with
      | .assertion a => m.unicode && Mode.asksForWords a
      | _ => false
    return ⟨← m.atom a e, m, asks⟩
  | .bracket a negated e => do
    return ⟨.one (← m.finish e negated (← m.members a)), m, false⟩
  | .flags l => .ok ⟨.empty, l.foldl Mode.apply m, false⟩
  | .group l f => do return { ← f.meaning (l.foldl Mode.apply m) with mode := m }
  | .repeated f least most => do
    let inner ← f.meaning m
    return { inner with pattern := .times inner.pattern least most }
  | .seq f g => do
    let first ← f.meaning m
    let second ← g.meaning first.mode
    return ⟨.seq first.pattern second.pattern, second.mode,
      first.asksForWords || second.asksForWords⟩
  | .alt f g => do
    let first ← f.meaning m
    let second ← g.meaning first.mode
    return ⟨.alt first.pattern second.pattern, second.mode,
      first.asksForWords || second.asksForWords⟩

/-- Reads a pattern; what is wrong with it is told in words. -/
def read (text : String) : Except String Pattern :=
  let cs := text.toList
  match form cs with
  | .error p => .error (p.message cs)
  | .ok f =>
    match f.meaning {} with
    | .error p => .error (p.message cs)
    | .ok m => if m.asksForWords then .error "error building NFA" else .ok m.pattern

end MonkeyScan.Pattern
