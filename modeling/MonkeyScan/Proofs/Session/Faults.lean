import MonkeyScan.Proofs.Session.WholeText
import MonkeyScan.Proofs.Sink

/-!
# Sessions with faults

Three things can go wrong in a session: the reader fails behind its last byte, the sink is full,
a flush fails. They may come together, and whichever comes first ends the session.

**Theorem (`run_of_faults`).** What a session with faults prints is the beginning of what it would
print without them.

A reader that fails behind a line that was only begun leaves that line unanswered, so that the
session is one on the bytes up to the last line feed (`lines_answered`). For a sink, the effects of
a session are a text, which is the `dialogue` of prompts and answers, with a mark behind each prompt
(`marks_effects`): there are no flushes elsewhere. What the faults of the sink do to it is then
settled by the text and its marks.
-/

namespace MonkeyScan.Session

open Text

/-! ## The text of a session -/

/-- A prompt in front of the answer to each line, and one more behind them. -/
def dialogue (cfg : Config) (coloursShown : Bool) (lines : List (List UInt8)) : List UInt8 :=
  (lines.flatMap fun line => Utf8.bytes cfg.prompt ++
    (scanLine line).tokens.flatMap fun t => Utf8.bytes (cfg.render coloursShown t ++ "\n")) ++
  Utf8.bytes cfg.prompt

/-- How much of the dialogue on `lines` is written when its `j`-th prompt ends, which is behind the
answers to the `j - 1` lines in front of it. -/
def promptEnd (cfg : Config) (coloursShown : Bool) (lines : List (List UInt8)) (j : Nat) : Nat :=
  (dialogue cfg coloursShown (lines.take (j - 1))).length

theorem bytes_ask (cfg : Config) : (ask cfg).flatMap Effect.bytes = Utf8.bytes cfg.prompt :=
  List.append_nil _

theorem dialogue_cons (cfg : Config) (coloursShown : Bool) (line : List UInt8)
    (lines : List (List UInt8)) :
    dialogue cfg coloursShown (line :: lines) =
      (ask cfg).flatMap Effect.bytes ++
        ((answer cfg coloursShown line).flatMap Effect.bytes ++
          dialogue cfg coloursShown lines) := by
  rw [bytes_ask, bytes_answer, dialogue, dialogue, List.flatMap_cons, List.append_assoc,
    List.append_assoc]

theorem bytes_effects (cfg : Config) (coloursShown : Bool) (input : Input) :
    (effects cfg coloursShown input).flatMap Effect.bytes =
      dialogue cfg coloursShown input.lines := by
  have hend : (if input.failsAtEnd then []
      else [Effect.note (closingNote (stats input.lines))]).flatMap Effect.bytes = [] := by
    split <;> rfl
  rw [effects, List.flatMap_append, List.flatMap_append, hend, List.append_nil, bytes_ask,
    List.flatMap_assoc, dialogue]
  congr 2
  funext line
  rw [List.flatMap_append, bytes_ask, bytes_answer]

theorem marks_answer (cfg : Config) (coloursShown : Bool) (line : List UInt8) :
    Effect.marks (answer cfg coloursShown line) = [] := by
  rw [← List.length_eq_zero_iff, Effect.length_marks, isFlush_answer]

theorem marks_prompts (cfg : Config) (coloursShown : Bool) (lines : List (List UInt8)) :
    Effect.marks ((lines.flatMap fun line => ask cfg ++ answer cfg coloursShown line) ++ ask cfg) =
      (List.range (lines.length + 1)).map fun i =>
        (dialogue cfg coloursShown (lines.take i)).length := by
  induction lines with
  | nil => rfl
  | cons line lines ih =>
    have hask : Effect.marks (ask cfg) = [(dialogue cfg coloursShown []).length] := rfl
    rw [List.flatMap_cons, List.append_assoc, List.append_assoc, Effect.marks_append,
      Effect.marks_append, marks_answer, List.nil_append, ih, hask, List.length_cons,
      List.range_succ_eq_map (n := lines.length + 1), List.map_cons, List.take_zero,
      List.map_map, List.map_map, List.map_map, List.singleton_append]
    congr 2
    funext i
    simp only [Function.comp, List.take_succ_cons, dialogue_cons, List.length_append]

/-- The flushes of a session are those behind its prompts. -/
theorem marks_effects (cfg : Config) (coloursShown : Bool) (input : Input) :
    Effect.marks (effects cfg coloursShown input) =
      (List.range (input.lines.length + 1)).map fun i =>
        (dialogue cfg coloursShown (input.lines.take i)).length := by
  have hend : Effect.marks (if input.failsAtEnd then []
      else [Effect.note (closingNote (stats input.lines))]) = [] := by
    split <;> rfl
  rw [effects, Effect.marks_append, hend, List.map_nil, List.append_nil, marks_prompts]

/-! ## Readers that fail -/

/-- The bytes of the lines that are answered: where the reader fails, none behind the last line
feed. -/
def Input.answered (i : Input) : List UInt8 :=
  if i.failsAtEnd then i.bytes.rdropWhile (· ≠ 10) else i.bytes

theorem lines_answered (i : Input) : (⟨i.answered, false⟩ : Input).lines = i.lines := by
  obtain ⟨bytes, failsAtEnd⟩ := i
  cases failsAtEnd with
  | false => rfl
  | true =>
    rw [lines_eq, Input.answered, if_pos rfl, lines_rdropWhile]
    rfl

/-! ## Sessions -/

/-- How a run ended, what it wrote and how many flushes it tried. -/
def Outcome.EndsWith (o : Outcome) (result : Except Fault Stats) (output : List UInt8)
    (flushes : Nat) : Prop :=
  o.result = result ∧ o.transcript.output = output ∧ o.transcript.flushes = flushes

/-- The flush behind the `k`-th of so many prompts fails, and the sink has room up to the end of
that prompt. -/
def FlushFails (sink : Sink) (promptEnd : Nat → Nat) (prompts k : Nat) : Prop :=
  sink.failingFlush = some k ∧ 1 ≤ k ∧ k ≤ prompts ∧ ∀ n ∈ sink.room, promptEnd k ≤ n

theorem lines_stats (lines : List (List UInt8)) : (stats lines).lines = lines.length := by
  induction lines with
  | nil => rfl
  | cons line lines ih =>
    rw [stats_cons, Stats.add, ih, List.length_cons, Nat.add_comm]
    rfl

/-- The end of a prompt is where the flush behind it stands. -/
theorem getElem?_marks_effects (cfg : Config) (coloursShown : Bool) (input : Input) {k m : Nat} :
    (Effect.marks (effects cfg coloursShown input))[k]? = some m ↔
      k < input.lines.length + 1 ∧ promptEnd cfg coloursShown input.lines (k + 1) = m := by
  rw [marks_effects, List.getElem?_map, Option.map_eq_some_iff]
  simp only [promptEnd, Nat.add_sub_cancel]
  constructor
  · rintro ⟨i, hi, rfl⟩
    obtain ⟨hlt, rfl⟩ := List.getElem?_eq_some_iff.1 hi
    rw [List.length_range] at hlt
    rw [List.getElem_range]
    exact ⟨hlt, rfl⟩
  · rintro ⟨hlt, rfl⟩
    exact ⟨k, List.getElem?_range hlt, rfl⟩

theorem countP_marks_effects (cfg : Config) (coloursShown : Bool) (input : Input) (n : Nat) :
    (Effect.marks (effects cfg coloursShown input)).countP (· ≤ n) =
      (List.range' 1 (input.lines.length + 1)).countP fun j =>
        promptEnd cfg coloursShown input.lines j ≤ n := by
  rw [marks_effects, List.countP_map, List.range'_eq_map_range, List.countP_map]
  refine List.countP_congr fun i _ => ?_
  simp only [Function.comp, promptEnd, Nat.add_sub_cancel_left]

/-- A shorter dialogue is the beginning of a longer one on the same lines. -/
theorem prefix_dialogue (cfg : Config) (coloursShown : Bool) (lines : List (List UInt8)) (i : Nat) :
    dialogue cfg coloursShown (lines.take i) <+: dialogue cfg coloursShown lines := by
  induction lines generalizing i with
  | nil =>
    have hnil : ([] : List (List UInt8)).take i = [] := List.take_nil
    exact hnil.symm ▸ List.prefix_rfl
  | cons line lines ih =>
    cases i with
    | zero =>
      rw [List.take_zero, dialogue_cons, bytes_ask]
      exact List.prefix_append _ _
    | succ i =>
      rw [List.take_succ_cons, dialogue_cons, dialogue_cons]
      exact (List.prefix_append_right_inj _).2 ((List.prefix_append_right_inj _).2 (ih i))

section Endings

variable {cfg : Config} {coloursShown : Bool} {input : Input} {sink : Sink}

theorem result_of_fault {f : Fault}
    (h : (sink.perform (effects cfg coloursShown input)).fault = some f) :
    (run cfg coloursShown input sink).result = .error f := by
  simp only [run, h]

theorem run_of_flushFails {k : Nat}
    (h : FlushFails sink (promptEnd cfg coloursShown input.lines) (input.lines.length + 1) k) :
    (run cfg coloursShown input sink).EndsWith (.error .flushFailed)
      ((dialogue cfg coloursShown input.lines).take (promptEnd cfg coloursShown input.lines k))
      k := by
  obtain ⟨hk, hpos, hle, hroom⟩ := h
  obtain ⟨k, rfl⟩ : ∃ j, k = j + 1 := ⟨k - 1, by omega⟩
  have hmark := (getElem?_marks_effects cfg coloursShown input).2 ⟨Nat.lt_of_succ_le hle, rfl⟩
  obtain ⟨houtput, hflushes, hfault⟩ := Sink.perform_of_flush_fails hk hmark hroom
  rw [bytes_effects] at houtput
  exact ⟨result_of_fault hfault, houtput, hflushes⟩

theorem run_of_full {n : Nat} (hroom : sink.room = some n)
    (hn : n < (dialogue cfg coloursShown input.lines).length)
    (h : ¬ ∃ k, FlushFails sink (promptEnd cfg coloursShown input.lines)
      (input.lines.length + 1) k) :
    (run cfg coloursShown input sink).EndsWith (.error .sinkFull)
      ((dialogue cfg coloursShown input.lines).take n)
      ((List.range' 1 (input.lines.length + 1)).countP fun j =>
        promptEnd cfg coloursShown input.lines j ≤ n) := by
  have hflush : ∀ k m, sink.failingFlush = some (k + 1) →
      (Effect.marks (effects cfg coloursShown input))[k]? = some m → n < m := by
    intro k m hk hm
    obtain ⟨hlt, rfl⟩ := (getElem?_marks_effects cfg coloursShown input).1 hm
    by_contra hle
    refine h ⟨k + 1, hk, Nat.succ_pos k, hlt, fun n' hn' => ?_⟩
    rw [hroom] at hn'
    rw [← Option.some.inj hn']
    exact Nat.le_of_not_lt hle
  rw [← bytes_effects] at hn
  obtain ⟨houtput, hflushes, hfault⟩ := Sink.perform_of_full hroom hn hflush
  rw [bytes_effects] at houtput
  rw [countP_marks_effects] at hflushes
  exact ⟨result_of_fault hfault, houtput, hflushes⟩

theorem run_of_fits (hroom : ∀ n ∈ sink.room, (dialogue cfg coloursShown input.lines).length ≤ n)
    (h : ¬ ∃ k, FlushFails sink (promptEnd cfg coloursShown input.lines)
      (input.lines.length + 1) k) :
    (run cfg coloursShown input sink).EndsWith
      (if input.failsAtEnd then .error .sourceFailed else .ok (stats input.lines))
      (dialogue cfg coloursShown input.lines) (input.lines.length + 1) := by
  have hlength : (Effect.marks (effects cfg coloursShown input)).length =
      input.lines.length + 1 := by
    rw [marks_effects, List.length_map, List.length_range]
  have hflush : ∀ k, sink.failingFlush = some (k + 1) →
      (Effect.marks (effects cfg coloursShown input)).length ≤ k := by
    intro k hk
    rw [hlength]
    by_contra hlt
    refine h ⟨k + 1, hk, Nat.succ_pos k, by omega, fun n hn => ?_⟩
    exact Nat.le_trans (prefix_dialogue cfg coloursShown input.lines k).length_le (hroom n hn)
  have hperform : sink.perform (effects cfg coloursShown input) = _ :=
    (Sink.perform_of_fits (by rwa [bytes_effects]) hflush).trans (Sink.perform_unlimited _)
  rw [bytes_effects, ← Effect.length_marks, hlength] at hperform
  simp only [Outcome.EndsWith, run, hperform, and_self]

end Endings

/-- **Faults.** Let `text` be what a session without faults writes on the lines that are answered,
and `c j` how much of it is written when the `j`-th prompt ends.

If a flush fails, the session ends there. If none that the sink comes to does, but the sink has no
room for all of `text`, it ends where the sink is full, with the flushes behind the prompts up to
there. Otherwise all of `text` is written, and the session ends as its reader does. -/
theorem run_of_faults (cfg : Config) (coloursShown : Bool) (input : Input) (sink : Sink) :
    let whole := run cfg coloursShown ⟨input.answered, false⟩ .unlimited
    let text := whole.transcript.output
    let c := promptEnd cfg coloursShown (⟨input.answered, false⟩ : Input).lines
    let outcome := run cfg coloursShown input sink
    ∃ stats, whole.result = .ok stats ∧
      text = dialogue cfg coloursShown (⟨input.answered, false⟩ : Input).lines ∧
      (∀ k, FlushFails sink c (stats.lines + 1) k →
        outcome.EndsWith (.error .flushFailed) (text.take (c k)) k) ∧
      ((¬ ∃ k, FlushFails sink c (stats.lines + 1) k) →
        (∀ n ∈ sink.room, n < text.length →
          outcome.EndsWith (.error .sinkFull) (text.take n)
            ((List.range' 1 (stats.lines + 1)).countP fun j => c j ≤ n)) ∧
        ((∀ n ∈ sink.room, text.length ≤ n) →
          outcome.EndsWith (if input.failsAtEnd then .error .sourceFailed else .ok stats) text
            (stats.lines + 1))) := by
  intro whole text c outcome
  have htext : text = dialogue cfg coloursShown (⟨input.answered, false⟩ : Input).lines := by
    simp only [text, whole, run, Sink.perform_unlimited, bytes_effects]
  refine ⟨stats input.lines, ?_, htext, ?_⟩
  · simp only [whole, run, Sink.perform_unlimited, lines_answered, if_neg Bool.false_ne_true]
  have hc : c = promptEnd cfg coloursShown input.lines := by simp only [c, lines_answered]
  rw [lines_answered] at htext
  rw [lines_stats, hc, htext]
  exact ⟨fun k hk => run_of_flushFails hk,
    fun h => ⟨fun n hroom hn => run_of_full hroom hn h, fun hroom => run_of_fits hroom h⟩⟩

/-- The second line is only begun when the reader fails, and has no answer. -/
example : (run .default false ⟨Utf8.bytes "1\n2", true⟩ .unlimited).EndsWith
    (.error .sourceFailed) (Utf8.bytes ">> INT(1) @ 1:1\n>> ") 2 := by
  refine ⟨?_, ?_, ?_⟩ <;> cbv

end MonkeyScan.Session
