import MonkeyScan.Sink

/-!
# Work that a fault cuts short

A list of effects comes to a text and to marks in it: one for each flush, at the end of what is
written when the flush comes (`Effect.marks`). The text and its marks settle what becomes of the
work on any sink.

- A flush that fails ends it at its mark, if the sink has room up to there
  (`perform_of_flush_fails`).
- A sink that is full before that ends it in the middle of the text, and the flushes at the marks
  up to there have been made (`perform_of_full`).
- Otherwise all of the work is done, as on a sink without faults (`perform_of_fits`).

The output is in every case the beginning of the text. Each statement goes by induction on the
work: a write moves all marks behind it, and a flush that succeeds takes the first mark away.
-/

namespace MonkeyScan

namespace Effect

/-- How many bytes are written when a flush comes, for each flush in order. -/
def marks : List Effect → List Nat
  | [] => []
  | .write bytes :: es => (marks es).map (bytes.length + ·)
  | .flush :: es => 0 :: marks es
  | .note _ :: es => marks es

theorem marks_append (es fs : List Effect) :
    marks (es ++ fs) = marks es ++ (marks fs).map ((es.flatMap bytes).length + ·) := by
  induction es with
  | nil => simp [marks]
  | cons e es ih =>
    cases e with
    | write bs =>
      rw [List.cons_append, marks, marks, ih, List.map_append, List.map_map, List.flatMap_cons,
        List.length_append]
      simp only [Function.comp_def, Nat.add_assoc, bytes]
    | flush =>
      rw [List.cons_append, marks, marks, ih]
      rfl
    | note r => exact ih

theorem length_marks (es : List Effect) : (marks es).length = es.countP isFlush := by
  induction es with
  | nil => rfl
  | cons e es ih =>
    cases e with
    | write bs => rw [marks, List.length_map, ih, List.countP_cons_of_neg Bool.false_ne_true]
    | flush => rw [marks, List.length_cons, ih, List.countP_cons_of_pos rfl]
    | note r => rw [marks, ih, List.countP_cons_of_neg Bool.false_ne_true]

end Effect

namespace Sink

open Effect

theorem write?_of_fits {s : Sink} {bs : List UInt8} (h : ∀ n ∈ s.room, bs.length ≤ n) :
    s.write? bs = some { s with room := s.room.map (· - bs.length) } := by
  obtain ⟨room, failing⟩ := s
  cases room with
  | none => rfl
  | some n => exact if_pos (h n rfl)

theorem flush?_of_succeeds {s : Sink} (h : s.failingFlush ≠ some 1) :
    s.flush? = some { s with failingFlush := s.failingFlush.map (· - 1) } := by
  obtain ⟨room, failing⟩ := s
  cases failing with
  | none => rfl
  | some k => exact if_neg fun hk => h (congrArg some hk)

theorem write?_of_full {s : Sink} {bs : List UInt8} {n : Nat} (hroom : s.room = some n)
    (h : n < bs.length) : s.write? bs = none := by
  simp only [write?, hroom, if_neg (Nat.not_le.2 h)]

/-- What fits in two parts has its second part fit behind the first. -/
theorem fits_add {room : Option Nat} {a b : Nat} (h : ∀ n ∈ room, a + b ≤ n) :
    (∀ n ∈ room, a ≤ n) ∧ ∀ n ∈ room.map (· - a), b ≤ n := by
  refine ⟨fun n hn => Nat.le_trans (Nat.le_add_right a b) (h n hn), fun n hn => ?_⟩
  obtain ⟨r, hr, rfl⟩ := Option.map_eq_some_iff.1 hn
  exact Nat.le_sub_of_add_le' (h r hr)

theorem eq_some_of_map_pred {failing : Option Nat} {k : Nat}
    (h : failing.map (· - 1) = some (k + 1)) : failing = some (k + 2) := by
  obtain ⟨j, hj, hk⟩ := Option.map_eq_some_iff.1 h
  rw [hj, show j = k + 2 by omega]

/-! ## Faults -/

/-- **A flush that fails.** What is written in front of it fits, and is all that is written. -/
theorem perform_of_flush_fails {es : List Effect} {s : Sink} {k m : Nat}
    (hk : s.failingFlush = some (k + 1)) (hm : (marks es)[k]? = some m)
    (hroom : ∀ n ∈ s.room, m ≤ n) :
    (s.perform es).output = (es.flatMap bytes).take m ∧ (s.perform es).flushes = k + 1 ∧
      (s.perform es).fault = some .flushFailed := by
  induction es generalizing s k m with
  | nil => cases hm
  | cons e es ih =>
    cases e with
    | write bs =>
      rw [marks, List.getElem?_map, Option.map_eq_some_iff] at hm
      obtain ⟨m, hm, rfl⟩ := hm
      obtain ⟨hfits, hroom'⟩ := fits_add hroom
      obtain ⟨houtput, hflushes, hfault⟩ :=
        ih (s := { s with room := s.room.map (· - bs.length) }) hk hm hroom'
      simp only [perform, write?_of_fits hfits]
      refine ⟨?_, hflushes, hfault⟩
      rw [houtput, List.flatMap_cons, bytes, List.take_length_add_append]
    | flush =>
      obtain _ | k := k
      -- The flush that comes first is the one that fails.
      · obtain rfl : 0 = m := Option.some.inj hm
        simp [perform, flush?, hk]
      · obtain ⟨houtput, hflushes, hfault⟩ :=
          ih (s := { s with failingFlush := some (k + 1) }) rfl hm hroom
        have hflush : s.flush? = some { s with failingFlush := some (k + 1) } := by
          rw [flush?_of_succeeds (by simp [hk]), hk]
          rfl
        simp only [perform, hflush]
        exact ⟨houtput, congrArg (· + 1) hflushes, hfault⟩
    | note r => exact ih hk hm hroom

/-- **A sink that is full.** It has taken all that it has room for, and the flushes made are those
that come no later. -/
theorem perform_of_full {es : List Effect} {s : Sink} {n : Nat} (hroom : s.room = some n)
    (hn : n < (es.flatMap bytes).length)
    (hflush : ∀ k m, s.failingFlush = some (k + 1) → (marks es)[k]? = some m → n < m) :
    (s.perform es).output = (es.flatMap bytes).take n ∧
      (s.perform es).flushes = (marks es).countP (· ≤ n) ∧
      (s.perform es).fault = some .sinkFull := by
  induction es generalizing s n with
  | nil => cases hn
  | cons e es ih =>
    cases e with
    | write bs =>
      by_cases hfits : bs.length ≤ n
      · have hwrite : s.write? bs = some { s with room := some (n - bs.length) } := by
          rw [write?_of_fits (by simpa [hroom] using hfits), hroom]
          rfl
        have hn' : n - bs.length < (es.flatMap bytes).length := by
          rw [List.flatMap_cons, List.length_append, bytes] at hn
          omega
        have hflush' : ∀ k m, s.failingFlush = some (k + 1) → (marks es)[k]? = some m →
            n - bs.length < m := by
          intro k m hk hm
          have hlt := hflush k (bs.length + m) hk (by rw [marks, List.getElem?_map, hm]; rfl)
          omega
        obtain ⟨houtput, hflushes, hfault⟩ :=
          ih (s := { s with room := some (n - bs.length) }) rfl hn' hflush'
        simp only [perform, hwrite]
        refine ⟨?_, ?_, hfault⟩
        · rw [houtput, List.flatMap_cons, bytes, List.take_append, List.take_of_length_le hfits]
        · rw [hflushes, marks, List.countP_map]
          refine List.countP_congr fun m _ => ?_
          simp only [Function.comp, decide_eq_true_eq]
          omega
      -- The write fills the room, and every mark is moved behind it.
      · have hlt := Nat.lt_of_not_le hfits
        have hperform : s.perform (.write bs :: es) = ⟨bs.take n, 0, [], some .sinkFull⟩ := by
          simp only [perform, write?_of_full hroom hlt, hroom, Option.getD_some]
        rw [hperform]
        refine ⟨?_, ?_, rfl⟩
        · rw [List.flatMap_cons, bytes, List.take_append_of_le_length (Nat.le_of_lt hlt)]
        · rw [marks, List.countP_map, eq_comm, List.countP_eq_zero]
          intro m _
          simp only [Function.comp, decide_eq_true_eq]
          omega
    | flush =>
      have hne : s.failingFlush ≠ some 1 := fun hk => Nat.not_lt_zero n (hflush 0 0 hk rfl)
      have hflush' : ∀ k m, s.failingFlush.map (· - 1) = some (k + 1) →
          (marks es)[k]? = some m → n < m := by
        intro k m hk hm
        exact hflush (k + 1) m (eq_some_of_map_pred hk) hm
      obtain ⟨houtput, hflushes, hfault⟩ :=
        ih (s := { s with failingFlush := s.failingFlush.map (· - 1) }) hroom hn hflush'
      simp only [perform, flush?_of_succeeds hne]
      refine ⟨houtput, ?_, hfault⟩
      rw [hflushes, marks, List.countP_cons_of_pos (by simp)]
    | note r => exact ih hroom hn hflush

/-- **No fault.** A sink with room for all of the text, none of whose flushes fails, is as good as
one without limits. -/
theorem perform_of_fits {es : List Effect} {s : Sink}
    (hroom : ∀ n ∈ s.room, (es.flatMap bytes).length ≤ n)
    (hflush : ∀ k, s.failingFlush = some (k + 1) → (marks es).length ≤ k) :
    s.perform es = unlimited.perform es := by
  induction es generalizing s with
  | nil => rfl
  | cons e es ih =>
    cases e with
    | write bs =>
      rw [List.flatMap_cons, List.length_append, bytes] at hroom
      obtain ⟨hfits, hroom'⟩ := fits_add hroom
      have hflush' : ∀ k, s.failingFlush = some (k + 1) → (marks es).length ≤ k := by
        simpa only [marks, List.length_map] using hflush
      rw [perform_unlimited_cons]
      simp only [perform, write?_of_fits hfits,
        ih (s := { s with room := s.room.map (· - bs.length) }) hroom' hflush']
      rfl
    | flush =>
      have hne : s.failingFlush ≠ some 1 := fun hk => Nat.not_succ_le_zero _ (hflush 0 hk)
      have hflush' : ∀ k, s.failingFlush.map (· - 1) = some (k + 1) →
          (marks es).length ≤ k := by
        intro k hk
        exact Nat.le_of_succ_le_succ (hflush (k + 1) (eq_some_of_map_pred hk))
      rw [perform_unlimited_cons]
      simp only [perform, flush?_of_succeeds hne,
        ih (s := { s with failingFlush := s.failingFlush.map (· - 1) }) hroom hflush']
      rfl
    | note r =>
      rw [perform_unlimited_cons]
      simp only [perform, ih hroom hflush]
      rfl

end Sink

end MonkeyScan
