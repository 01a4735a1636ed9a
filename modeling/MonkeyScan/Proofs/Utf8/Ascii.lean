import MonkeyScan.Proofs.Utf8

/-!
# ASCII in any bytes

Bytes that are not well-formed UTF-8 are still read alike around each byte below 128. Such a byte
is no part of a longer character and ends what was begun in front of it, so that it can be cut out:
what stands before it is read as if it ended there, and what follows as if it began there
(`pieces_append_ascii`). Nor does it come from other bytes, since a longer character has a number
of 128 or more; for the line feed this is `newline_not_mem_decodeLossy`.

Both rest on the bounds that a first byte sets for the second (`lead?_bounds`).
-/

namespace MonkeyScan.Utf8

/-- Further bytes are neither ASCII nor first bytes, and with the least second byte the number is
beyond ASCII already. -/
theorem lead?_bounds {b : UInt8} {p : Partial} (h : lead? b = some p) :
    0 < p.owed ∧ 128 ≤ p.low.toNat ∧ p.high.toNat ≤ 191 ∧
      128 ≤ 64 ^ (p.owed - 1) * (64 * p.bits + (p.low.toNat - 128)) := by
  have hall : ∀ n < 256, (lead? (UInt8.ofNat n)).all fun p =>
      0 < p.owed ∧ 128 ≤ p.low.toNat ∧ p.high.toNat ≤ 191 ∧
        128 ≤ 64 ^ (p.owed - 1) * (64 * p.bits + (p.low.toNat - 128)) := by
    decide +kernel
  have hb := hall b.toNat b.toNat_lt
  rw [UInt8.ofNat_toNat, h] at hb
  simpa using hb

/-! ## Cutting at an ASCII byte -/

theorem finish_append_ascii {a low : UInt8} (ha : a.toNat < 128) (hlow : 128 ≤ low.toNat)
    (owed : Nat) (high : UInt8) (bits : Nat) (bs rest : List UInt8) :
    finish owed low high bits (bs ++ a :: rest) =
      ((finish owed low high bits bs).1, (finish owed low high bits bs).2 ++ a :: rest) := by
  fun_induction finish owed low high bits bs with
  | case1 => rfl
  | case2 owed low high bits =>
    have hout : ¬ (low ≤ a ∧ a ≤ high) := by
      rw [UInt8.le_iff_toNat_le]
      omega
    rw [List.nil_append, finish, if_neg hout]
  | case3 owed low high bits b bs hb ih =>
    rw [List.cons_append, finish, if_pos hb, ih (by decide)]
  | case4 owed low high bits b bs hb =>
    rw [List.cons_append, finish, if_neg hb]

theorem takeFirst_append_ascii {a : UInt8} (ha : a.toNat < 128) (b : UInt8)
    (bs rest : List UInt8) :
    takeFirst b (bs ++ a :: rest) = ((takeFirst b bs).1, (takeFirst b bs).2 ++ a :: rest) := by
  unfold takeFirst
  split
  · rfl
  · split
    · next hp => exact finish_append_ascii ha (lead?_bounds hp).2.1 _ _ _ bs rest
    · rfl

/-- **Cutting.** Bytes can be cut at each byte below 128, whatever surrounds it. -/
theorem pieces_append_ascii {a : UInt8} (ha : a.toNat < 128) (bs rest : List UInt8) :
    pieces (bs ++ a :: rest) = pieces bs ++ some (Char.ofNat a.toNat) :: pieces rest := by
  fun_induction pieces bs with
  | case1 =>
    have hlt : a < 0x80 := UInt8.lt_iff_toNat_lt.2 ha
    rw [List.nil_append, pieces_cons, takeFirst, if_pos hlt]
    rfl
  | case2 b bs _ ih =>
    rw [List.cons_append, pieces_cons, takeFirst_append_ascii ha, ih, List.cons_append]

theorem decodeLossy_append_newline (bs rest : List UInt8) :
    decodeLossy (bs ++ 10 :: rest) = decodeLossy bs ++ '\n' :: decodeLossy rest := by
  rw [decodeLossy, pieces_append_ascii (by decide), List.map_append]
  rfl

theorem decodeLossy_eq_nil_iff {bs : List UInt8} : decodeLossy bs = [] ↔ bs = [] := by
  cases bs with
  | nil => simp [decodeLossy]
  | cons b bs => simp [decodeLossy, pieces_cons]

/-! ## Where line feeds come from -/

theorem toNat_and_mask {b : UInt8} (hlow : 128 ≤ b.toNat) (hhigh : b.toNat ≤ 191) :
    (b &&& 0x3f).toNat = b.toNat - 128 := by
  rw [UInt8.toNat_and]
  show b.toNat &&& (2 ^ 6 - 1) = b.toNat - 128
  rw [Nat.and_two_pow_sub_one_eq_mod]
  omega

/-- Each further byte is a digit to base 64 below the bits read so far. -/
theorem exists_le_of_finish {owed : Nat} {low high : UInt8} {bits : Nat} {bs : List UInt8}
    {c : Char} (h : (finish owed low high bits bs).1 = some c) :
    ∃ v, c = Char.ofNat v ∧ 64 ^ owed * bits ≤ v := by
  fun_induction finish owed low high bits bs with
  | case1 _ _ bits => exact ⟨bits, (Option.some.inj h).symm, by omega⟩
  | case2 => cases h
  | case3 owed low high bits b bs _ ih =>
    obtain ⟨v, hc, hv⟩ := ih h
    refine ⟨v, hc, Nat.le_trans ?_ hv⟩
    calc 64 ^ (owed + 1) * bits = 64 ^ owed * (64 * bits) := by rw [Nat.pow_succ, Nat.mul_assoc]
      _ ≤ 64 ^ owed * (64 * bits + (b &&& 0x3f).toNat) :=
        Nat.mul_le_mul_left _ (Nat.le_add_right _ _)
  | case4 => cases h

/-- A character of more than one byte has a number beyond ASCII. -/
theorem exists_le_of_lead? {b : UInt8} {p : Partial} (hp : lead? b = some p) {bs : List UInt8}
    {c : Char} (h : (finish p.owed p.low p.high p.bits bs).1 = some c) :
    ∃ v, c = Char.ofNat v ∧ 128 ≤ v := by
  obtain ⟨hpos, hlow, hhigh, hbits⟩ := lead?_bounds hp
  obtain ⟨n, hn⟩ : ∃ n, p.owed = n + 1 := ⟨p.owed - 1, by omega⟩
  rw [hn] at h hbits
  cases bs with
  | nil => cases h
  | cons d ds =>
    rw [finish] at h
    split at h
    · next hd =>
      rw [UInt8.le_iff_toNat_le, UInt8.le_iff_toNat_le] at hd
      obtain ⟨v, hc, hv⟩ := exists_le_of_finish h
      refine ⟨v, hc, hbits.trans (Nat.le_trans (Nat.mul_le_mul_left _ ?_) hv)⟩
      rw [toNat_and_mask (by omega) (by omega)]
      omega
    · cases h

theorem ofNat_ne_newline {v : Nat} (h : v ≠ 10) : Char.ofNat v ≠ '\n' := by
  by_cases hv : v.isValidChar
  · intro heq
    rw [Char.ofNat, dif_pos hv] at heq
    exact h (congrArg Char.toNat heq)
  · rw [Char.ofNat, dif_neg hv]
    decide

theorem takeFirst_ne_newline {b : UInt8} (hb : b ≠ 10) (bs : List UInt8) :
    (takeFirst b bs).1 ≠ some '\n' := by
  have hb : b.toNat ≠ 10 := fun h => hb (UInt8.toNat_inj.1 h)
  unfold takeFirst
  split
  · exact fun h => ofNat_ne_newline hb (Option.some.inj h)
  · split
    · next p hp =>
      intro h
      obtain ⟨v, hc, hv⟩ := exists_le_of_lead? hp h
      exact ofNat_ne_newline (by omega) hc.symm
    · simp

theorem finish_suffix (owed : Nat) (low high : UInt8) (bits : Nat) (bs : List UInt8) :
    (finish owed low high bits bs).2 <:+ bs := by
  fun_induction finish owed low high bits bs with
  | case1 => exact List.suffix_rfl
  | case2 => exact List.suffix_rfl
  | case3 _ _ _ _ b bs _ ih => exact ih.trans (List.suffix_cons b bs)
  | case4 => exact List.suffix_rfl

theorem takeFirst_suffix (b : UInt8) (bs : List UInt8) : (takeFirst b bs).2 <:+ bs := by
  unfold takeFirst
  split
  · exact List.suffix_rfl
  · split
    · exact finish_suffix ..
    · exact List.suffix_rfl

/-- A line feed is read only where its byte is. -/
theorem newline_not_mem_decodeLossy {bs : List UInt8} (h : 10 ∉ bs) : '\n' ∉ decodeLossy bs := by
  rw [decodeLossy]
  fun_induction pieces bs with
  | case1 => exact List.not_mem_nil
  | case2 b bs _ ih =>
    rw [List.mem_cons, not_or] at h
    have hfirst := takeFirst_ne_newline (Ne.symm h.1) bs
    have hrest := ih fun hmem => h.2 ((takeFirst_suffix b bs).mem hmem)
    rw [List.map_cons, List.mem_cons, not_or]
    refine ⟨?_, hrest⟩
    cases hc : (takeFirst b bs).1 with
    | none => simp
    | some c => exact fun heq => hfirst (hc.trans (congrArg some heq.symm))

end MonkeyScan.Utf8
