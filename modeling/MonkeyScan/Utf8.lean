/-!
# UTF-8

Texts are lists of characters and files are lists of bytes; UTF-8 ties the two together.
`pieces` cuts bytes into characters and ill-formed parts, where an ill-formed part is as long as
it can be while some character could still begin with it. The strict reading refuses a text with
an ill-formed part, and the lossy reading puts the replacement character in its place.
-/

namespace MonkeyScan.Utf8

def encode (cs : List Char) : List UInt8 := cs.flatMap String.utf8EncodeChar

/-- How many bytes a text takes. -/
def size : List Char → Nat
  | [] => 0
  | c :: cs => c.utf8Size + size cs

/-- The bytes of a string. -/
def bytes (s : String) : List UInt8 := encode s.toList

@[simp] theorem encode_cons (c : Char) (cs : List Char) :
    encode (c :: cs) = String.utf8EncodeChar c ++ encode cs := rfl

@[simp] theorem encode_append (cs ds : List Char) : encode (cs ++ ds) = encode cs ++ encode ds :=
  List.flatMap_append

@[simp] theorem size_nil : size [] = 0 := rfl

@[simp] theorem size_cons (c : Char) (cs : List Char) : size (c :: cs) = c.utf8Size + size cs := rfl

@[simp] theorem size_append (cs ds : List Char) : size (cs ++ ds) = size cs + size ds := by
  induction cs with
  | nil => simp
  | cons c cs ih => simp [ih, Nat.add_assoc]

@[simp] theorem length_encode (cs : List Char) : (encode cs).length = size cs := by
  induction cs with
  | nil => rfl
  | cons c cs ih => simp [ih]

/-! ## Decoding -/

/-- A character of which only the beginning is read: how many bytes it still owes, the least and
the greatest byte that may come next, and the bits read so far. -/
structure Partial where
  owed : Nat
  low : UInt8
  high : UInt8
  bits : Nat

/-- What the first byte of a character of more than one byte says about the rest. -/
def lead? (b : UInt8) : Option Partial :=
  let bits (mask : UInt8) : Nat := (b &&& mask).toNat
  if 0xc2 ≤ b ∧ b ≤ 0xdf then some ⟨1, 0x80, 0xbf, bits 0x1f⟩
  else if b = 0xe0 then some ⟨2, 0xa0, 0xbf, bits 0x0f⟩
  else if b = 0xed then some ⟨2, 0x80, 0x9f, bits 0x0f⟩
  else if 0xe1 ≤ b ∧ b ≤ 0xef then some ⟨2, 0x80, 0xbf, bits 0x0f⟩
  else if b = 0xf0 then some ⟨3, 0x90, 0xbf, bits 0x07⟩
  else if 0xf1 ≤ b ∧ b ≤ 0xf3 then some ⟨3, 0x80, 0xbf, bits 0x07⟩
  else if b = 0xf4 then some ⟨3, 0x80, 0x8f, bits 0x07⟩
  else none

/-- Reads `owed` further bytes. At the first that cannot continue the character, that byte stays
in front of the rest. -/
def finish : Nat → UInt8 → UInt8 → Nat → List UInt8 → Option Char × List UInt8
  | 0, _, _, bits, bs => (some (Char.ofNat bits), bs)
  | _ + 1, _, _, _, [] => (none, [])
  | owed + 1, low, high, bits, b :: bs =>
    if low ≤ b ∧ b ≤ high then finish owed 0x80 0xbf (64 * bits + (b &&& 0x3f).toNat) bs
    else (none, b :: bs)

/-- The character that begins with `b`, or none for an ill-formed part, and what follows it. -/
def takeFirst (b : UInt8) (bs : List UInt8) : Option Char × List UInt8 :=
  if b < 0x80 then (some (Char.ofNat b.toNat), bs)
  else match lead? b with
    | some p => finish p.owed p.low p.high p.bits bs
    | none => (none, bs)

theorem length_finish_le (owed : Nat) (low high : UInt8) (bits : Nat) (bs : List UInt8) :
    (finish owed low high bits bs).2.length ≤ bs.length := by
  fun_induction finish owed low high bits bs with
  | case1 => simp
  | case2 => simp
  | case3 _ _ _ _ _ _ _ ih => simp only [List.length_cons]; omega
  | case4 => simp

theorem length_takeFirst_le (b : UInt8) (bs : List UInt8) :
    (takeFirst b bs).2.length ≤ bs.length := by
  unfold takeFirst
  split
  · simp
  · split
    · exact length_finish_le ..
    · simp

/-- The characters of a byte string in order, with `none` for each ill-formed part. -/
def pieces : List UInt8 → List (Option Char)
  | [] => []
  | b :: bs =>
    have := length_takeFirst_le b bs
    (takeFirst b bs).1 :: pieces (takeFirst b bs).2
termination_by bs => bs.length
decreasing_by simp only [List.length_cons]; omega

/-- The text of well-formed bytes. -/
def decode? (bs : List UInt8) : Option (List Char) := (pieces bs).mapM id

/-- The text of any bytes, with a replacement character for each ill-formed part. -/
def decodeLossy (bs : List UInt8) : List Char := (pieces bs).map fun p => p.getD '\ufffd'

@[simp] theorem pieces_nil : pieces [] = [] := by simp [pieces]

theorem pieces_cons (b : UInt8) (bs : List UInt8) :
    pieces (b :: bs) = (takeFirst b bs).1 :: pieces (takeFirst b bs).2 := by
  rw [pieces]

end MonkeyScan.Utf8
