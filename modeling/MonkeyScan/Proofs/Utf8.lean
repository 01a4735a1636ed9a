import Mathlib.Tactic.IntervalCases
import MonkeyScan.Text.Cut

/-!
# Bytes and characters

What was encoded is decoded again, whatever follows it (`pieces_encode_append`). The bytes of a
character are given by the digits of its number to base 64, and the reading of them is followed
digit by digit: a first byte says how many are to come (`lead?_two`, `lead?_three`, `lead?_four`),
and each further one adds a digit (`finish_continuation`). The bounds that a first byte sets for
the second are met since a character is no surrogate and is not written longer than necessary.

Apart from that, `dropBytes?` finds the text behind an offset in bytes, which is the second part of
the text cut there (`dropBytes?_eq_map_cutAt?`).
-/

namespace MonkeyScan.Utf8

/-! ## Offsets -/

/-- The text behind the first `n` bytes, if a character begins there or the text ends there. -/
def dropBytes? : Nat → List Char → Option (List Char)
  | 0, cs => some cs
  | _ + 1, [] => none
  | n + 1, c :: cs => if c.utf8Size ≤ n + 1 then dropBytes? (n + 1 - c.utf8Size) cs else none

theorem dropBytes?_eq_map_cutAt? (n : Nat) (cs : List Char) :
    dropBytes? n cs = (Text.cutAt? n cs).map Prod.snd := by
  fun_induction dropBytes? n cs with
  | case1 cs => rw [Text.cutAt?]; rfl
  | case2 => rfl
  | case3 n c cs hle ih => rw [ih, Text.cutAt?, if_pos hle, Option.map_map]; rfl
  | case4 n c cs hle => rw [Text.cutAt?, if_neg hle]; rfl

theorem dropBytes?_size_append (cs ds : List Char) : dropBytes? (size cs) (cs ++ ds) = some ds := by
  rw [dropBytes?_eq_map_cutAt?, Text.cutAt?_size_append]
  rfl

/-! ## First bytes -/

theorem lead?_two {n : Nat} (hlow : 2 ≤ n) (hhigh : n < 32) :
    lead? (UInt8.ofNat (n + 0xc0)) = some ⟨1, 0x80, 0xbf, n⟩ := by
  interval_cases n <;> rfl

theorem lead?_three {n : Nat} (h : n < 16) :
    lead? (UInt8.ofNat (n + 0xe0)) =
      some ⟨2, if n = 0 then 0xa0 else 0x80, if n = 13 then 0x9f else 0xbf, n⟩ := by
  interval_cases n <;> rfl

theorem lead?_four {n : Nat} (h : n < 5) :
    lead? (UInt8.ofNat (n + 0xf0)) =
      some ⟨3, if n = 0 then 0x90 else 0x80, if n = 4 then 0x8f else 0xbf, n⟩ := by
  interval_cases n <;> rfl

/-! ## Further bytes -/

theorem toNat_continuation (m : Nat) : (UInt8.ofNat (m % 0x40 + 0x80)).toNat = m % 64 + 128 := by
  rw [UInt8.toNat_ofNat']
  omega

theorem and_continuation (m : Nat) : (UInt8.ofNat (m % 0x40 + 0x80) &&& 0x3f).toNat = m % 64 := by
  rw [UInt8.toNat_and, toNat_continuation]
  show (m % 64 + 128) &&& (2 ^ 6 - 1) = m % 64
  rw [Nat.and_two_pow_sub_one_eq_mod]
  omega

/-- A further byte within the bounds adds its digit. -/
theorem finish_continuation {low high : UInt8} {m : Nat} (hlow : low.toNat ≤ m % 64 + 128)
    (hhigh : m % 64 + 128 ≤ high.toNat) (owed bits : Nat) (bs : List UInt8) :
    finish (owed + 1) low high bits (UInt8.ofNat (m % 0x40 + 0x80) :: bs) =
      finish owed 0x80 0xbf (64 * bits + m % 64) bs := by
  rw [finish, if_pos, and_continuation]
  rw [UInt8.le_iff_toNat_le, UInt8.le_iff_toNat_le, toNat_continuation]
  exact ⟨hlow, hhigh⟩

/-- A further byte that is not the second one of its character has no bounds of its own. -/
theorem finish_digit (m owed bits : Nat) (bs : List UInt8) :
    finish (owed + 1) 0x80 0xbf bits (UInt8.ofNat (m % 0x40 + 0x80) :: bs) =
      finish owed 0x80 0xbf (64 * bits + m % 64) bs :=
  finish_continuation (by show 128 ≤ _; omega) (by show _ ≤ 191; omega) owed bits bs

theorem takeFirst_of_lead? {b low high : UInt8} {owed bits : Nat} (hb : 0x80 ≤ b.toNat)
    (h : lead? b = some ⟨owed, low, high, bits⟩) (bs : List UInt8) :
    takeFirst b bs = finish owed low high bits bs := by
  rw [takeFirst, if_neg, h]
  rw [UInt8.lt_iff_toNat_lt]
  show ¬ b.toNat < 128
  omega

/-! ## Characters -/

theorem takeFirst_one {v : Nat} (h : v ≤ 0x7f) (bs : List UInt8) :
    takeFirst (UInt8.ofNat v) bs = (some (Char.ofNat v), bs) := by
  have hv : (UInt8.ofNat v).toNat = v := by
    rw [UInt8.toNat_ofNat']
    omega
  rw [takeFirst, if_pos, hv]
  rw [UInt8.lt_iff_toNat_lt, hv]
  exact Nat.lt_succ_of_le h

theorem takeFirst_two {v : Nat} (hlow : 0x7f < v) (hhigh : v ≤ 0x7ff) (bs : List UInt8) :
    takeFirst (UInt8.ofNat (v / 64 % 0x20 + 0xc0)) (UInt8.ofNat (v % 0x40 + 0x80) :: bs) =
      (some (Char.ofNat v), bs) := by
  have hlead := lead?_two (n := v / 64 % 32) (by omega) (by omega)
  rw [takeFirst_of_lead? (by rw [UInt8.toNat_ofNat']; omega) hlead, finish_digit, finish]
  congr 3
  omega

theorem takeFirst_three {v : Nat} (hlow : 0x7ff < v) (hhigh : v ≤ 0xffff)
    (hv : v < 0xd800 ∨ 0xdfff < v) (bs : List UInt8) :
    takeFirst (UInt8.ofNat (v / 4096 % 0x10 + 0xe0))
        (UInt8.ofNat (v / 64 % 0x40 + 0x80) :: UInt8.ofNat (v % 0x40 + 0x80) :: bs) =
      (some (Char.ofNat v), bs) := by
  have hlead := lead?_three (n := v / 4096 % 16) (by omega)
  rw [takeFirst_of_lead? (by rw [UInt8.toNat_ofNat']; omega) hlead, finish_continuation,
    finish_digit, finish]
  · congr 3
    omega
  -- The second byte: no overlong form below, no surrogate above.
  · split
    · show 160 ≤ _
      omega
    · show 128 ≤ _
      omega
  · split
    · show _ ≤ 159
      omega
    · show _ ≤ 191
      omega

theorem takeFirst_four {v : Nat} (hlow : 0xffff < v) (hhigh : v < 0x110000) (bs : List UInt8) :
    takeFirst (UInt8.ofNat (v / 262144 % 0x08 + 0xf0))
        (UInt8.ofNat (v / 4096 % 0x40 + 0x80) :: UInt8.ofNat (v / 64 % 0x40 + 0x80) ::
          UInt8.ofNat (v % 0x40 + 0x80) :: bs) =
      (some (Char.ofNat v), bs) := by
  have hlead := lead?_four (n := v / 262144 % 8) (by omega)
  rw [takeFirst_of_lead? (by rw [UInt8.toNat_ofNat']; omega) hlead, finish_continuation,
    finish_digit, finish_digit, finish]
  · congr 3
    omega
  -- The second byte: no overlong form below, no number beyond the last character above.
  · split
    · show 144 ≤ _
      omega
    · show 128 ≤ _
      omega
  · split
    · show _ ≤ 143
      omega
    · show _ ≤ 191
      omega

/-- **One character.** The bytes of a character are read as that character. -/
theorem pieces_encodeChar_append (c : Char) (bs : List UInt8) :
    pieces (String.utf8EncodeChar c ++ bs) = some c :: pieces bs := by
  have hc : Char.ofNat c.val.toNat = c := Char.ofNat_toNat c
  have hvalid : c.val.toNat < 0xd800 ∨ 0xdfff < c.val.toNat ∧ c.val.toNat < 0x110000 := c.valid
  rw [String.utf8EncodeChar]
  generalize c.val.toNat = v at hc hvalid
  rw [← hc]
  by_cases h₁ : v ≤ 0x7f
  · rw [if_pos h₁, List.singleton_append, pieces_cons, takeFirst_one h₁]
  rw [if_neg h₁]
  by_cases h₂ : v ≤ 0x7ff
  · rw [if_pos h₂]
    simp only [List.cons_append, List.nil_append]
    rw [pieces_cons, takeFirst_two (by omega) h₂]
  rw [if_neg h₂]
  by_cases h₃ : v ≤ 0xffff
  · rw [if_pos h₃]
    simp only [List.cons_append, List.nil_append]
    rw [pieces_cons, takeFirst_three (by omega) h₃ (by omega)]
  · rw [if_neg h₃]
    simp only [List.cons_append, List.nil_append]
    rw [pieces_cons, takeFirst_four (by omega) (by omega)]

theorem pieces_encode_append (cs : List Char) (bs : List UInt8) :
    pieces (encode cs ++ bs) = cs.map some ++ pieces bs := by
  induction cs with
  | nil => rfl
  | cons c cs ih =>
    rw [encode_cons, List.append_assoc, pieces_encodeChar_append, ih, List.map_cons,
      List.cons_append]

theorem pieces_encode (cs : List Char) : pieces (encode cs) = cs.map some := by
  have h := pieces_encode_append cs []
  rwa [List.append_nil, pieces_nil, List.append_nil] at h

theorem decodeLossy_encode (cs : List Char) : decodeLossy (encode cs) = cs := by
  rw [decodeLossy, pieces_encode, List.map_map]
  exact List.map_id cs

/-! ## ASCII -/

/-- A byte below 128 is a character of its own and never a part of a longer one. -/
theorem toNat_eq_of_mem_encodeChar {c : Char} {b : UInt8} (hb : b.toNat < 128)
    (h : b ∈ String.utf8EncodeChar c) : c.toNat = b.toNat := by
  rw [String.utf8EncodeChar] at h
  show c.val.toNat = b.toNat
  generalize c.val.toNat = v at h ⊢
  split at h
  · rw [List.mem_singleton.1 h, UInt8.toNat_ofNat']
    omega
  -- Every byte of a longer character is 128 or more.
  · have hlong : 128 ≤ b.toNat := by
      split at h
      · simp only [List.mem_cons, List.not_mem_nil, or_false] at h
        rcases h with rfl | rfl <;> rw [UInt8.toNat_ofNat'] <;> omega
      · split at h
        · simp only [List.mem_cons, List.not_mem_nil, or_false] at h
          rcases h with rfl | rfl | rfl <;> rw [UInt8.toNat_ofNat'] <;> omega
        · simp only [List.mem_cons, List.not_mem_nil, or_false] at h
          rcases h with rfl | rfl | rfl | rfl <;> rw [UInt8.toNat_ofNat'] <;> omega
    omega

end MonkeyScan.Utf8
