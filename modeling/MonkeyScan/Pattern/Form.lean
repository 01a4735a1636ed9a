import MonkeyScan.Pattern.Problem

/-!
# The written form of a pattern

What a pattern is written with, before it is said what that matches: characters and escapes,
classes in brackets, groups, flags and repetitions. What may still turn out to be wrong keeps its
extent in the text.
-/

namespace MonkeyScan.Pattern

/-- Classes of characters that an escape or a bracket names. -/
inductive ClassName where
  | digit | space | word
  | alnum | alpha | ascii | blank | cntrl | graph | lower | print | punct | upper | xdigit
deriving DecidableEq

/-- The ASCII characters of a class. -/
def ClassName.ranges : ClassName → List (Nat × Nat)
  | digit => [(0x30, 0x39)]
  | space => [(0x9, 0xd), (0x20, 0x20)]
  | word => [(0x30, 0x39), (0x41, 0x5a), (0x5f, 0x5f), (0x61, 0x7a)]
  | alnum => [(0x30, 0x39), (0x41, 0x5a), (0x61, 0x7a)]
  | alpha => [(0x41, 0x5a), (0x61, 0x7a)]
  | ascii => [(0, 0x7f)]
  | blank => [(0x9, 0x9), (0x20, 0x20)]
  | cntrl => [(0, 0x1f), (0x7f, 0x7f)]
  | graph => [(0x21, 0x7e)]
  | lower => [(0x61, 0x7a)]
  | print => [(0x20, 0x7e)]
  | punct => [(0x21, 0x2f), (0x3a, 0x40), (0x5b, 0x60), (0x7b, 0x7e)]
  | upper => [(0x41, 0x5a)]
  | xdigit => [(0x30, 0x39), (0x41, 0x46), (0x61, 0x66)]

/-- The class that a word in brackets and colons names. -/
def ClassName.ofName? : String → Option ClassName
  | "alnum" => some alnum
  | "alpha" => some alpha
  | "ascii" => some ascii
  | "blank" => some blank
  | "cntrl" => some cntrl
  | "digit" => some digit
  | "graph" => some graph
  | "lower" => some lower
  | "print" => some print
  | "punct" => some punct
  | "space" => some space
  | "upper" => some upper
  | "word" => some word
  | "xdigit" => some xdigit
  | _ => none

/-- Conditions on a place, of which some depend on the flags. -/
inductive Assertion where
  | lineStart | lineEnd | textStart | textEnd
  | wordEdge | noWordEdge | wordStart | wordEnd | noWordBefore | noWordBehind
deriving DecidableEq

/-- What a character, or an escape, stands for. -/
inductive Atom where
  /-- A character; `asByte` says that it was written with two hexadecimal digits. -/
  | char (c : Char) (asByte : Bool)
  | any
  | assertion (a : Assertion)
  | named (n : ClassName) (negated : Bool)
  /-- The characters with a property of which the name is given. -/
  | property (name : List Char) (hasValue : Bool)
deriving DecidableEq

inductive SetOperation where
  | intersection | difference | symmetricDifference
deriving DecidableEq

/-- What stands between brackets. -/
inductive ClassForm where
  | nothing
  | atom (a : Atom) (extent : Extent)
  | range (first last : Char) (firstAsByte lastAsByte : Bool) (extent : Extent)
  /-- A name between brackets and colons. -/
  | named (n : ClassName) (negated : Bool) (extent : Extent)
  | union (a b : ClassForm)
  | operation (o : SetOperation) (a b : ClassForm)
  | bracketed (a : ClassForm) (negated : Bool) (extent : Extent)
deriving DecidableEq

inductive Flag where
  | caseless | multiline | dotAll | lazily | unicode | anyLineEnd | spaced
deriving DecidableEq

def Flag.ofChar? : Char → Option Flag
  | 'i' => some caseless
  | 'm' => some multiline
  | 's' => some dotAll
  | 'U' => some lazily
  | 'u' => some unicode
  | 'R' => some anyLineEnd
  | 'x' => some spaced
  | _ => none

/-- A flag that is set, or not set any more. -/
structure Setting where
  flag : Flag
  value : Bool
deriving DecidableEq

inductive Form where
  | empty
  | atom (a : Atom) (extent : Extent)
  | bracket (a : ClassForm) (negated : Bool) (extent : Extent)
  | flags (settings : List Setting)
  | group (settings : List Setting) (f : Form)
  | repeated (f : Form) (least : Nat) (most : Option Nat)
  | seq (f g : Form)
  | alt (f g : Form)
deriving DecidableEq

end MonkeyScan.Pattern
