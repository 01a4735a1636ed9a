import MonkeyScan.Utf8

/-!
# What a terminal shows

A terminal takes some of the bytes that it is sent as commands: single controls, and sequences
that begin with an escape. `visible` is the rest, for output that goes to no terminal: printable
characters and the controls that are white space.

A sequence that is not finished swallows what follows it up to where it could end. White space
within a sequence is shown, and so is the text behind it, up to the next command.
-/

namespace MonkeyScan.Terminal

/-- How much of a command has been read. -/
inductive State where
  | ground
  /-- Behind an escape, and behind an escape and an intermediate character. -/
  | escape | escapeMore
  /-- In a control sequence: an escape and a bracket, parameters, and a letter at its end. -/
  | control
  /-- In the parameters of a device control, or behind the intermediate characters of one. -/
  | device | deviceParameters | deviceMore
  /-- In a string for the device, which an 8-bit terminator ends. -/
  | deviceString
  /-- In a string for the system, which a bell ends. -/
  | systemString
  /-- In a character of several bytes, of which so many are still to come. -/
  | within (owed : Nat)
deriving DecidableEq

namespace State

/-- The bytes that follow the first byte of a character. -/
def owedBehind (b : UInt8) : Nat :=
  if 0xc2 ≤ b ∧ b ≤ 0xdf then 1
  else if 0xe0 ≤ b ∧ b ≤ 0xef then 2
  else if 0xf0 ≤ b ∧ b ≤ 0xf4 then 3
  else 0

/-- Behind the character that names the kind of a command. -/
def ofIntroducer (b : UInt8) : State :=
  if b = 0x5b then control
  else if b = 0x5d then systemString
  else if b = 0x50 then device
  else if b = 0x58 ∨ b = 0x5e ∨ b = 0x5f then deviceString
  else ground

/-- The state behind the byte `b`. A cancel or a substitute ends every command, and an escape
begins a new one. -/
def next (s : State) (b : UInt8) : State :=
  if b = 0x18 ∨ b = 0x1a then ground
  else if b = 0x1b then escape
  else match s with
    | ground => if owedBehind b = 0 then ground else within (owedBehind b)
    | within owed => if owed ≤ 1 then ground else within (owed - 1)
    | escape =>
      if 0x20 ≤ b ∧ b ≤ 0x2f then escapeMore
      else if 0x30 ≤ b ∧ b ≤ 0x7e then ofIntroducer b
      else escape
    | escapeMore => if 0x30 ≤ b ∧ b ≤ 0x7e then ground else escapeMore
    | control => if 0x40 ≤ b ∧ b ≤ 0x7e then ground else control
    | device =>
      if 0x20 ≤ b ∧ b ≤ 0x2f then deviceMore
      else if 0x30 ≤ b ∧ b ≤ 0x3f then deviceParameters
      else if 0x40 ≤ b ∧ b ≤ 0x7e then deviceString
      else device
    | deviceParameters =>
      if 0x20 ≤ b ∧ b ≤ 0x2f then deviceMore
      else if 0x3c ≤ b ∧ b ≤ 0x7e then deviceString
      else deviceParameters
    | deviceMore => if 0x30 ≤ b ∧ b ≤ 0x7e then deviceString else deviceMore
    | deviceString => if b = 0x9c then ground else deviceString
    | systemString => if b = 0x07 then ground else systemString

/-- Whether controls take effect in this state, although a command is not finished. -/
def obeys : State → Bool
  | ground | escape | escapeMore | control => true
  | _ => false

/-- The white space among the controls. -/
def isSpacing (b : UInt8) : Bool := b = 0x09 || b = 0x0a || b = 0x0c || b = 0x0d

/-- Whether the byte `b` is shown in this state. -/
def shows (s : State) (b : UInt8) : Bool :=
  match s with
  | within _ => true
  | ground => isSpacing b || (0x20 ≤ b && b ≤ 0x7e) || owedBehind b ≠ 0
  | s => s.obeys && isSpacing b

end State

/-- The bytes that are shown, from the state `s` on. Where text is `running`, a byte that can be
shown is shown, whatever command was begun before. -/
def visibleFrom (running : Bool) (s : State) : List UInt8 → List UInt8
  | [] => []
  | b :: bs =>
    match s with
    | .within _ => b :: visibleFrom true (s.next b) bs
    | s =>
      if running && State.ground.shows b then
        b :: visibleFrom true
          (if State.owedBehind b = 0 then s else .within (State.owedBehind b)) bs
      else if s.shows b then b :: visibleFrom true (s.next b) bs
      else visibleFrom false (s.next b) bs

def visible (bs : List UInt8) : List UInt8 := visibleFrom true .ground bs

end MonkeyScan.Terminal
