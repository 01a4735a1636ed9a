import Mathlib.Data.List.TakeWhile
import MonkeyScan.Proofs.Utf8
import MonkeyScan.Terminal

/-!
# Sequences that select a style

What is sent to a terminal that knows styles is made of bytes to be shown and of sequences that
select a style: an escape, a bracket, digits and semicolons, and an m. `elements` takes an output
apart into these: nothing gets lost (`flatMap_bytes_elements`) and no sequence is overlooked
(`elements_append_escape`). `erase` leaves the sequences with certain parameters out, and `unstyled`
leaves all of them out.

An output can be taken apart piece by piece as long as no sequence reaches over a seam. `Makes` says
so of one piece with any continuation: of a text without an escape (`makes_elements_encode`), of an
escape in front of something other than a bracket (`makes_elements_escape`) and of a sequence
(`makes_elements_style`).
-/

namespace MonkeyScan

/-! ## Functions that go piece by piece -/

/-- The function `f` makes `ys` of `xs`, whatever follows. -/
def Makes {α β : Type} (f : List α → List β) (xs : List α) (ys : List β) : Prop :=
  ∀ rest, f (xs ++ rest) = ys ++ f rest

namespace Makes

variable {α β γ ι : Type} {f : List α → List β} {xs xs' : List α} {ys ys' : List β}

theorem eq (h : Makes f xs ys) (hnil : f [] = []) : f xs = ys := by
  have hrest := h []
  rwa [List.append_nil, hnil, List.append_nil] at hrest

theorem nil : Makes f [] [] := fun _ => rfl

theorem append (h : Makes f xs ys) (h' : Makes f xs' ys') :
    Makes f (xs ++ xs') (ys ++ ys') := by
  intro rest
  rw [List.append_assoc, h, h', List.append_assoc]

theorem flatMap {is : List ι} {g : ι → List α} {k : ι → List β}
    (h : ∀ i ∈ is, Makes f (g i) (k i)) : Makes f (is.flatMap g) (is.flatMap k) := by
  induction is with
  | nil => exact nil
  | cons i is ih =>
    rw [List.flatMap_cons, List.flatMap_cons]
    exact (h i List.mem_cons_self).append (ih fun j hj => h j (List.mem_cons_of_mem i hj))

/-- What is made of a piece can be worked on one by one. -/
theorem then_flatMap (h : Makes f xs ys) (g : β → List γ) :
    Makes (fun zs => (f zs).flatMap g) xs (ys.flatMap g) := by
  intro rest
  simp only [h rest, List.flatMap_append]

end Makes

namespace Terminal

/-! ## Elements -/

/-- A byte, or a sequence that selects a style. -/
inductive Element where
  | byte (b : UInt8)
  | style (parameters : List UInt8)
deriving DecidableEq

/-- Digits and semicolons. -/
def isParameter (b : UInt8) : Bool := (0x30 ≤ b && b ≤ 0x39) || b = 0x3b

/-- The bytes that an element is sent as. -/
def Element.bytes : Element → List UInt8
  | byte b => [b]
  | style parameters => 0x1b :: 0x5b :: (parameters ++ [0x6d])

/-- The parameters of the sequence that stands at the front. -/
def styleAtFront? (bs : List UInt8) : Option (List UInt8) :=
  let parameters := (bs.drop 2).takeWhile isParameter
  if bs.take 2 = [0x1b, 0x5b] ∧ ((bs.drop 2).dropWhile isParameter).head? = some 0x6d then
    some parameters
  else none

/-- Takes an output apart behind so many bytes, which belong to a sequence that is taken already. -/
def elementsBehind : Nat → List UInt8 → List Element
  | _, [] => []
  | n + 1, _ :: bs => elementsBehind n bs
  | 0, b :: bs =>
    match styleAtFront? (b :: bs) with
    | some parameters => .style parameters :: elementsBehind (parameters.length + 2) bs
    | none => .byte b :: elementsBehind 0 bs

def elements (bs : List UInt8) : List Element := elementsBehind 0 bs

/-- What is left of an element without the sequences whose parameters are to be erased. -/
def Element.kept (erased : List UInt8 → Bool) : Element → List UInt8
  | byte b => [b]
  | style parameters => if erased parameters then [] else (style parameters).bytes

/-- The output without the sequences whose parameters are to be erased. -/
def erase (erased : List UInt8 → Bool) (bs : List UInt8) : List UInt8 :=
  (elements bs).flatMap (Element.kept erased)

/-- The output without any sequence that selects a style. -/
def unstyled (bs : List UInt8) : List UInt8 := erase (fun _ => true) bs

theorem elementsBehind_eq (n : Nat) (bs : List UInt8) :
    elementsBehind n bs = elements (bs.drop n) := by
  induction n generalizing bs with
  | zero => rfl
  | succ n ih =>
    cases bs with
    | nil => rfl
    | cons b bs => exact ih bs

theorem elements_of_style {bs parameters : List UInt8} (h : styleAtFront? bs = some parameters) :
    elements bs = .style parameters :: elements (bs.drop (parameters.length + 3)) := by
  cases bs with
  | nil => cases h
  | cons b bs =>
    rw [elements, elementsBehind, h]
    exact congrArg _ (elementsBehind_eq _ bs)

theorem elements_of_byte {b : UInt8} {bs : List UInt8} (h : styleAtFront? (b :: bs) = none) :
    elements (b :: bs) = .byte b :: elements bs := by
  rw [elements, elementsBehind, h]
  rfl

theorem Element.length_bytes_style (parameters : List UInt8) :
    (style parameters).bytes.length = parameters.length + 3 := by
  simp [bytes]

/-- The sequence at the front is sent as what its parameters say. -/
theorem bytes_append_drop {bs parameters : List UInt8} (h : styleAtFront? bs = some parameters) :
    (Element.style parameters).bytes ++ bs.drop (parameters.length + 3) = bs := by
  unfold styleAtFront? at h
  split at h
  case isFalse => cases h
  case isTrue hfront =>
    obtain ⟨htake, hhead⟩ := hfront
    obtain ⟨tail, htail⟩ := List.head?_eq_some_iff.1 hhead
    have hparameters : (bs.drop 2).takeWhile isParameter = parameters := Option.some.inj h
    have hbs : bs = (Element.style parameters).bytes ++ tail := by
      calc bs = bs.take 2 ++ bs.drop 2 := (List.take_append_drop 2 bs).symm
        _ = [0x1b, 0x5b] ++ (parameters ++ 0x6d :: tail) := by
          rw [htake, ← hparameters, ← htail, List.takeWhile_append_dropWhile]
        _ = (Element.style parameters).bytes ++ tail := by simp [Element.bytes]
    rw [hbs, List.drop_left' (Element.length_bytes_style parameters)]

/-- **Nothing gets lost.** -/
theorem flatMap_bytes_elements (bs : List UInt8) : (elements bs).flatMap Element.bytes = bs := by
  induction h : bs.length using Nat.strongRecOn generalizing bs with
  | ind n ih =>
    subst h
    cases bs with
    | nil => rfl
    | cons b bs =>
      cases hfront : styleAtFront? (b :: bs) with
      | none =>
        rw [elements_of_byte hfront, List.flatMap_cons, ih _ (Nat.lt_succ_self _) bs rfl]
        rfl
      | some parameters =>
        have hlt : ((b :: bs).drop (parameters.length + 3)).length < (b :: bs).length := by
          rw [List.length_drop, List.length_cons]
          omega
        rw [elements_of_style hfront, List.flatMap_cons, ih _ hlt _ rfl,
          bytes_append_drop hfront]

/-- A sequence that is cut off by an escape is none. -/
theorem styleAtFront?_append_escape {bs : List UInt8} (h : bs ≠ []) (cs : List UInt8) :
    styleAtFront? (bs ++ 0x1b :: cs) = styleAtFront? bs := by
  have hescape : ¬ isParameter 0x1b = true := by decide
  obtain _ | ⟨a, _ | ⟨b, bs⟩⟩ := bs
  · exact absurd rfl h
  · rw [styleAtFront?, styleAtFront?, if_neg (by simp), if_neg (by simp)]
  · simp only [styleAtFront?, List.cons_append, List.drop_succ_cons, List.drop_zero,
      List.take_succ_cons, List.take_zero, List.dropWhile_append, List.takeWhile_append]
    cases hcut : bs.dropWhile isParameter with
    | nil =>
      simp [List.dropWhile_cons_of_neg hescape]
    | cons c ds =>
      have hlength : ¬ (bs.takeWhile isParameter).length = bs.length := by
        intro heq
        have := congrArg List.length (List.takeWhile_append_dropWhile (p := isParameter) (l := bs))
        rw [hcut, List.length_append, List.length_cons] at this
        omega
      simp [hlength]

/-- **Nothing is overlooked.** An escape is in no sequence but at its front, so that a sequence is
found wherever it stands. -/
theorem elements_append_escape (bs cs : List UInt8) :
    elements (bs ++ 0x1b :: cs) = elements bs ++ elements (0x1b :: cs) := by
  induction h : bs.length using Nat.strongRecOn generalizing bs with
  | ind n ih =>
    subst h
    cases bs with
    | nil => rfl
    | cons b bs =>
      have hfront := styleAtFront?_append_escape (List.cons_ne_nil b bs) cs
      cases hstyle : styleAtFront? (b :: bs) with
      | none =>
        rw [hstyle] at hfront
        rw [elements_of_byte hstyle]
        rw [List.cons_append] at hfront ⊢
        rw [elements_of_byte hfront, ih _ (Nat.lt_succ_self _) bs rfl]
        rfl
      | some parameters =>
        rw [hstyle] at hfront
        have hle : parameters.length + 3 ≤ (b :: bs).length := by
          have := congrArg List.length (bytes_append_drop hstyle)
          rw [List.length_append, Element.length_bytes_style] at this
          omega
        rw [elements_of_style hstyle, elements_of_style hfront, List.drop_append_of_le_length hle,
          ih _ (by rw [List.length_drop]; omega) _ rfl]
        rfl

/-! ## Pieces -/

theorem styleAtFront?_of_ne {b : UInt8} (h : b ≠ 0x1b) (bs : List UInt8) :
    styleAtFront? (b :: bs) = none := by
  refine if_neg fun hfront => h ?_
  exact (List.cons.inj hfront.1).1

theorem styleAtFront?_escape {b : UInt8} (h : b ≠ 0x5b) (bs : List UInt8) :
    styleAtFront? (0x1b :: b :: bs) = none := by
  refine if_neg fun hfront => h ?_
  exact (List.cons.inj (List.cons.inj hfront.1).2).1

theorem styleAtFront?_style {parameters : List UInt8} (h : ∀ b ∈ parameters, isParameter b = true)
    (bs : List UInt8) :
    styleAtFront? ((Element.style parameters).bytes ++ bs) = some parameters := by
  have hend : ¬ isParameter 0x6d = true := by decide
  have hdrop : ((Element.style parameters).bytes ++ bs).drop 2 = parameters ++ 0x6d :: bs := by
    simp [Element.bytes]
  simp only [styleAtFront?, hdrop, List.dropWhile_append_of_pos h, List.takeWhile_append_of_pos h,
    List.dropWhile_cons_of_neg hend, List.takeWhile_cons_of_neg hend, List.append_nil]
  exact if_pos ⟨rfl, rfl⟩

/-- Bytes without an escape are taken one by one. -/
theorem makes_elements_of_not_mem {bs : List UInt8} (h : 0x1b ∉ bs) :
    Makes elements bs (bs.map .byte) := by
  intro rest
  induction bs with
  | nil => rfl
  | cons b bs ih =>
    rw [List.mem_cons, not_or] at h
    rw [List.cons_append, elements_of_byte (styleAtFront?_of_ne (Ne.symm h.1) _), ih h.2]
    rfl

theorem makes_elements_encode {cs : List Char} (h : '\x1b' ∉ cs) :
    Makes elements (Utf8.encode cs) ((Utf8.encode cs).map .byte) := by
  refine makes_elements_of_not_mem fun hmem => ?_
  obtain ⟨c, hc, hbyte⟩ := List.mem_flatMap.1 hmem
  have hescape : c = '\x1b' := Char.toNat_inj.1 (Utf8.toNat_eq_of_mem_encodeChar (by decide) hbyte)
  exact h (hescape ▸ hc)

/-- An escape begins no sequence if something other than a bracket follows. -/
theorem makes_elements_escape {b : UInt8} (hescape : b ≠ 0x1b) (hbracket : b ≠ 0x5b) :
    Makes elements [0x1b, b] [.byte 0x1b, .byte b] := by
  intro rest
  show elements (0x1b :: b :: rest) = _
  rw [elements_of_byte (styleAtFront?_escape hbracket rest),
    elements_of_byte (styleAtFront?_of_ne hescape rest)]
  rfl

theorem makes_elements_style {parameters : List UInt8}
    (h : ∀ b ∈ parameters, isParameter b = true) :
    Makes elements (Element.style parameters).bytes [.style parameters] := by
  intro rest
  rw [elements_of_style (styleAtFront?_style h rest),
    List.drop_left' (Element.length_bytes_style parameters)]
  rfl

/-- Where `elements` makes something of a piece, `erase` makes what is kept of it. -/
theorem makes_erase {erased : List UInt8 → Bool} {bs : List UInt8} {es : List Element}
    (h : Makes elements bs es) : Makes (erase erased) bs (es.flatMap (Element.kept erased)) :=
  h.then_flatMap _

theorem flatMap_kept_byte (erased : List UInt8 → Bool) (bs : List UInt8) :
    (bs.map Element.byte).flatMap (Element.kept erased) = bs := by
  rw [List.flatMap_map]
  exact List.flatMap_singleton' bs

theorem makes_unstyled_encode {cs : List Char} (h : '\x1b' ∉ cs) :
    Makes unstyled (Utf8.encode cs) (Utf8.encode cs) := by
  have hbytes : Makes unstyled (Utf8.encode cs)
      (((Utf8.encode cs).map .byte).flatMap (Element.kept fun _ => true)) :=
    makes_erase (makes_elements_encode h)
  rwa [flatMap_kept_byte] at hbytes

theorem makes_unstyled_style {parameters : List UInt8}
    (h : ∀ b ∈ parameters, isParameter b = true) :
    Makes unstyled (Element.style parameters).bytes [] :=
  makes_erase (makes_elements_style h)

end Terminal

end MonkeyScan
