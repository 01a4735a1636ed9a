/-!
# Patterns

A pattern says which texts are looked for, as a regular expression does. `Pattern.reach` follows a
pattern through a text: from a set of places to the set of places where what it matches may end,
so that a text is gone through once, however many ways there are to match it. A text is found if
some place in it leads anywhere.

A place is the number of characters before it.
-/

namespace MonkeyScan

/-- A set of code points, built from ranges with the operations on sets. -/
inductive CharSet where
  | none
  | range (first last : Nat)
  | union (a b : CharSet)
  | intersection (a b : CharSet)
  | complement (a : CharSet)
  /-- With each ASCII letter in the set, its other case. -/
  | bothCases (a : CharSet)
deriving DecidableEq

namespace CharSet

def single (n : Nat) : CharSet := range n n

def ofRanges : List (Nat × Nat) → CharSet
  | [] => none
  | r :: rs => (range r.1 r.2).union (ofRanges rs)

def difference (a b : CharSet) : CharSet := a.intersection b.complement

/-- The members of one of two sets alone. -/
def symmetricDifference (a b : CharSet) : CharSet := (a.difference b).union (b.difference a)

/-- The other case of an ASCII letter. -/
def otherCase (n : Nat) : Nat :=
  if 0x41 ≤ n ∧ n ≤ 0x5a then n + 0x20 else if 0x61 ≤ n ∧ n ≤ 0x7a then n - 0x20 else n

def contains : CharSet → Nat → Bool
  | none, _ => false
  | range first last, n => first ≤ n && n ≤ last
  | union a b, n => a.contains n || b.contains n
  | intersection a b, n => a.contains n && b.contains n
  | complement a, n => !a.contains n
  | bothCases a, n => a.contains n || a.contains (otherCase n)

/-- The ASCII characters that words are made of. -/
def word : CharSet := ofRanges [(0x30, 0x39), (0x41, 0x5a), (0x5f, 0x5f), (0x61, 0x7a)]

end CharSet

/-- A condition on a place: what stands before it and behind it. -/
inductive Look where
  | textStart | textEnd
  | lineStart | lineEnd
  /-- As the two before, where a line may also end with a carriage return. -/
  | anyLineStart | anyLineEnd
  | wordEdge | noWordEdge
  | wordStart | wordEnd
  | noWordBefore | noWordBehind
deriving DecidableEq

/-- Whether a place between two characters, of which there may be none, meets a condition. -/
def Look.holds (l : Look) (before behind : Option Char) : Bool :=
  let isWord (c : Option Char) : Bool := c.any fun c => CharSet.word.contains c.toNat
  match l with
  | textStart => before.isNone
  | textEnd => behind.isNone
  | lineStart => before.isNone || before == some '\n'
  | lineEnd => behind.isNone || behind == some '\n'
  | anyLineStart =>
    before.isNone || before == some '\n' || (before == some '\r' && behind != some '\n')
  | anyLineEnd =>
    behind.isNone || behind == some '\r' || (behind == some '\n' && before != some '\r')
  | wordEdge => isWord before != isWord behind
  | noWordEdge => isWord before == isWord behind
  | wordStart => !isWord before && isWord behind
  | wordEnd => isWord before && !isWord behind
  | noWordBefore => !isWord before
  | noWordBehind => !isWord behind

inductive Pattern where
  | empty
  | one (set : CharSet)
  | look (l : Look)
  | seq (p q : Pattern)
  | alt (p q : Pattern)
  /-- As many times in a row as the two bounds allow. -/
  | times (p : Pattern) (least : Nat) (most : Option Nat)
deriving DecidableEq

namespace Pattern

/-- The places in one of two lists; what is in both is in the first part only. -/
def join (a b : List Nat) : List Nat := a ++ b.filter fun i => !a.contains i

/-- Does something to a set of places up to `n` times, and keeps all that is reached. -/
def upTo (f : List Nat → List Nat) : Nat → List Nat → List Nat
  | 0, places => places
  | n + 1, places => upTo f n (join places (f places))

/-- The places that a match from one of `places` may end at. More repetitions than the text has
places reach nothing new. -/
def reach (text : Array Char) : Pattern → List Nat → List Nat
  | empty, places => places
  | one set, places =>
    (places.filter fun i => text[i]?.any fun c => set.contains c.toNat).map (· + 1)
  | look l, places =>
    places.filter fun i => l.holds (if i = 0 then none else text[i - 1]?) text[i]?
  | seq p q, places => q.reach text (p.reach text places)
  | alt p q, places => join (p.reach text places) (q.reach text places)
  | times p least most, places =>
    let enough := text.size + 1
    let places := Nat.repeat (p.reach text) (min least enough) places
    upTo (p.reach text) (min ((most.map (· - least)).getD enough) enough) places

/-- Whether a match begins somewhere in the text. -/
def isIn (p : Pattern) (text : String) : Bool :=
  let cs := text.toList.toArray
  !(p.reach cs (List.range (cs.size + 1))).isEmpty

end Pattern

end MonkeyScan
