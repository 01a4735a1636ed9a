import MonkeyScan.Log

/-!
# Sinks

Where output goes. A sink may have room for only so many bytes, and a flush of it may fail; a
program's work on it is a list of effects, and `Sink.perform` carries them out in order until one
fails. A write that does not fit fills the room and then fails; a write of nothing always fits.

`perform_unlimited` says what a list of effects comes to where nothing fails.
-/

namespace MonkeyScan

/-- Why reading or writing stopped. -/
inductive Fault where
  | sinkFull | flushFailed | sourceFailed
deriving DecidableEq

def Fault.message : Fault → String
  | sinkFull => "sink full"
  | flushFailed => "flush failed"
  | sourceFailed => "source failed"

inductive Effect where
  | write (bytes : List UInt8)
  | flush
  | note (r : Log.Record)
deriving DecidableEq

namespace Effect

/-- The bytes that an effect writes. -/
def bytes : Effect → List UInt8
  | write bs => bs
  | _ => []

def isFlush : Effect → Bool
  | flush => true
  | _ => false

def note? : Effect → Option Log.Record
  | note r => some r
  | _ => none

end Effect

/-- What was done: the bytes that the sink took, the flushes tried, the notes made, and the fault
that ended it, if one did. -/
structure Transcript where
  output : List UInt8
  flushes : Nat
  notes : List Log.Record
  fault : Option Fault
deriving DecidableEq

/-- How many bytes a sink still takes and which of its flushes, counted from 1, fails. Without a
number there is no limit and no failure. -/
structure Sink where
  room : Option Nat := none
  failingFlush : Option Nat := none
deriving DecidableEq

namespace Sink

/-- A sink that never fails. -/
def unlimited : Sink := {}

/-- The sink behind a write that fits. -/
def write? (s : Sink) (bytes : List UInt8) : Option Sink :=
  match s.room with
  | none => some s
  | some n => if bytes.length ≤ n then some { s with room := some (n - bytes.length) } else none

/-- The sink behind a flush that succeeds. -/
def flush? (s : Sink) : Option Sink :=
  match s.failingFlush with
  | none => some s
  | some k => if k = 1 then none else some { s with failingFlush := some (k - 1) }

def perform (s : Sink) : List Effect → Transcript
  | [] => ⟨[], 0, [], none⟩
  | .write bytes :: es =>
    match s.write? bytes with
    | some s =>
      let t := s.perform es
      { t with output := bytes ++ t.output }
    | none => ⟨bytes.take (s.room.getD bytes.length), 0, [], some .sinkFull⟩
  | .flush :: es =>
    match s.flush? with
    | some s =>
      let t := s.perform es
      { t with flushes := t.flushes + 1 }
    | none => ⟨[], 1, [], some .flushFailed⟩
  | .note r :: es =>
    let t := s.perform es
    { t with notes := r :: t.notes }

theorem perform_unlimited_cons (e : Effect) (es : List Effect) :
    unlimited.perform (e :: es) =
      ⟨e.bytes ++ (unlimited.perform es).output,
        (unlimited.perform es).flushes + (if e.isFlush then 1 else 0),
        e.note?.toList ++ (unlimited.perform es).notes, (unlimited.perform es).fault⟩ := by
  cases e <;> rfl

theorem perform_unlimited (es : List Effect) :
    unlimited.perform es =
      ⟨es.flatMap Effect.bytes, es.countP Effect.isFlush, es.filterMap Effect.note?, none⟩ := by
  induction es with
  | nil => rfl
  | cons e es ih =>
    rw [perform_unlimited_cons, ih]
    congr 1
    · simp [List.countP_cons]
    · cases h : e.note? <;> simp [h]

end Sink

end MonkeyScan
