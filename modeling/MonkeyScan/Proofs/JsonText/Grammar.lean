/-!
# The grammar of JSON

`Document v cs` says that the text `cs` is a JSON document for the value `v`: blanks may stand
around the value and at the brackets, commas and colons in it (`Spells`), a number has an integer
part, perhaps a fraction and perhaps a power of ten (`Number`), and a character of a string stands
for itself or is escaped (`Spelled`).

A value keeps what a text says and not how: of a number the digits as an integer with a power of
ten, and of a string the characters. Half of a surrogate pair alone is no character, and a string
with one has no value.
-/

namespace MonkeyScan.JsonText

inductive Value where
  | null
  | bool (b : Bool)
  /-- The number `mantissa * 10 ^ exponent`. -/
  | number (mantissa exponent : Int)
  | string (s : String)
  | array (items : List Value)
  | object (fields : List (String × Value))

namespace Value

/-- The value of a field of an object. -/
def field? (v : Value) (k : String) : Option Value :=
  match v with
  | object fs => fs.lookup k
  | _ => none

def text? : Value → Option String
  | string s => some s
  | _ => none

/-- A number that is written without a fraction and a power of ten, and is not negative. -/
def natural? : Value → Option Nat
  | number (.ofNat n) 0 => some n
  | _ => none

end Value

/-! ## Blanks -/

def isSpace (c : Char) : Bool := [' ', '\t', '\n', '\r'].contains c

def Spaces (w : List Char) : Prop := ∀ c ∈ w, isSpace c = true

/-! ## Numbers -/

/-- One digit or more. -/
def Digits (ds : List Char) : Prop := ds ≠ [] ∧ ∀ d ∈ ds, d.isDigit = true

/-- The digits of a fraction, which may be absent, and its text. -/
inductive Fraction : List Char → List Char → Prop
  | absent : Fraction [] []
  | point {ds} (h : Digits ds) : Fraction ds ('.' :: ds)

/-- An integer that may have a sign, and its text. -/
inductive Signed : Int → List Char → Prop
  | plain {ds} (h : Digits ds) : Signed (Nat.ofDigitChars 10 ds 0) ds
  | plus {ds} (h : Digits ds) : Signed (Nat.ofDigitChars 10 ds 0) ('+' :: ds)
  | minus {ds} (h : Digits ds) : Signed (-Nat.ofDigitChars 10 ds 0) ('-' :: ds)

/-- A power of ten, which may be absent, and its text. -/
inductive Exponent : Int → List Char → Prop
  | absent : Exponent 0 []
  | mark {c e s} (hc : c = 'e' ∨ c = 'E') (h : Signed e s) : Exponent e (c :: s)

/-- A number without a sign, as an integer and a power of ten, and its text. No zero stands in front
of other digits. -/
inductive Magnitude : Nat → Int → List Char → Prop
  | mk {ds fs f e x} (hds : Digits ds) (hzero : ds.head? = some '0' → ds = ['0'])
      (hf : Fraction fs f) (hx : Exponent e x) :
      Magnitude (Nat.ofDigitChars 10 (ds ++ fs) 0) (e - fs.length) (ds ++ (f ++ x))

inductive Number : Int → Int → List Char → Prop
  | plain {m e s} (h : Magnitude m e s) : Number m e s
  | minus {m e s} (h : Magnitude m e s) : Number (-m) e ('-' :: s)

/-! ## Strings -/

/-- Characters that may stand for themselves in a string. -/
def isPlain (c : Char) : Bool := c ≠ '"' && c ≠ '\\' && 0x20 ≤ c.toNat

/-- The letters that stand for characters behind a backslash. -/
def letters : List (Char × Char) :=
  [('"', '"'), ('\\', '\\'), ('/', '/'), ('b', '\x08'), ('f', '\x0c'), ('n', '\n'), ('r', '\r'),
    ('t', '\t')]

/-- The value of a hexadecimal digit, in capital or small letters. -/
def hexDigit? (c : Char) : Option Nat := "0123456789abcdef".toList.idxOf? c.toLower

/-- The number of four hexadecimal digits. -/
inductive Unit : Nat → List Char → Prop
  | mk {a b c d h i j k} (ha : hexDigit? a = some h) (hb : hexDigit? b = some i)
      (hc : hexDigit? c = some j) (hd : hexDigit? d = some k) :
      Unit (((h * 16 + i) * 16 + j) * 16 + k) [a, b, c, d]

/-- The number of the character that a surrogate pair stands for. -/
def ofPair (high low : Nat) : Nat := 0x10000 + (high - 0xd800) * 0x400 + (low - 0xdc00)

/-- A character of a string, and what can be written for it. -/
inductive Spelled : Char → List Char → Prop
  | plain {c} (h : isPlain c = true) : Spelled c [c]
  | letter {e c} (h : letters.lookup e = some c) : Spelled c ['\\', e]
  | unit {c s} (h : Unit c.toNat s) : Spelled c ('\\' :: 'u' :: s)
  | pair {c s t} {high low : Nat} (hs : Unit high s) (ht : Unit low t)
      (hhigh : 0xd800 ≤ high ∧ high < 0xdc00) (hlow : 0xdc00 ≤ low ∧ low < 0xe000)
      (hc : c.toNat = ofPair high low) : Spelled c ('\\' :: 'u' :: (s ++ '\\' :: 'u' :: t))

inductive Letters : List Char → List Char → Prop
  | nil : Letters [] []
  | cons {c cs s t} (hc : Spelled c s) (hcs : Letters cs t) : Letters (c :: cs) (s ++ t)

/-- A string, and its text between quotes. -/
inductive Quoted : String → List Char → Prop
  | mk {k s} (h : Letters k.toList s) : Quoted k ('"' :: (s ++ ['"']))

/-! ## Values -/

/-- What a part of a text can spell: a value or a field of an object, and what follows the first of
them up to the closing bracket. -/
inductive Phrase where
  | value (v : Value)
  | items (vs : List Value)
  | field (f : String × Value)
  | fields (fs : List (String × Value))

inductive Spells : Phrase → List Char → Prop
  | nullName : Spells (.value .null) "null".toList
  | trueName : Spells (.value (.bool true)) "true".toList
  | falseName : Spells (.value (.bool false)) "false".toList
  | number {m e s} (h : Number m e s) : Spells (.value (.number m e)) s
  | string {k s} (h : Quoted k s) : Spells (.value (.string k)) s
  | noItem {w} (hw : Spaces w) : Spells (.value (.array [])) ('[' :: (w ++ [']']))
  | array {w v vs s t} (hw : Spaces w) (hv : Spells (.value v) s) (hvs : Spells (.items vs) t) :
      Spells (.value (.array (v :: vs))) ('[' :: (w ++ (s ++ t)))
  | lastItem {w} (hw : Spaces w) : Spells (.items []) (w ++ [']'])
  | moreItems {w w' v vs s t} (hw : Spaces w) (hw' : Spaces w') (hv : Spells (.value v) s)
      (hvs : Spells (.items vs) t) : Spells (.items (v :: vs)) (w ++ ',' :: (w' ++ (s ++ t)))
  | noField {w} (hw : Spaces w) : Spells (.value (.object [])) ('\x7b' :: (w ++ ['\x7d']))
  | object {w f fs s t} (hw : Spaces w) (hf : Spells (.field f) s) (hfs : Spells (.fields fs) t) :
      Spells (.value (.object (f :: fs))) ('\x7b' :: (w ++ (s ++ t)))
  | field {w w' k v s t} (hk : Quoted k s) (hw : Spaces w) (hw' : Spaces w')
      (hv : Spells (.value v) t) : Spells (.field (k, v)) (s ++ (w ++ ':' :: (w' ++ t)))
  | lastField {w} (hw : Spaces w) : Spells (.fields []) (w ++ ['\x7d'])
  | moreFields {w w' f fs s t} (hw : Spaces w) (hw' : Spaces w') (hf : Spells (.field f) s)
      (hfs : Spells (.fields fs) t) : Spells (.fields (f :: fs)) (w ++ ',' :: (w' ++ (s ++ t)))

/-- A value with blanks around it. -/
def Document (v : Value) (cs : List Char) : Prop :=
  ∃ w s w', Spaces w ∧ Spells (.value v) s ∧ Spaces w' ∧ cs = w ++ (s ++ w')

end MonkeyScan.JsonText
