import MonkeyScan.Proofs.Session.Faults
import MonkeyScan.Proofs.Terminal.Elements
import MonkeyScan.Proofs.Text.ReadBack

/-!
# Sessions in colour

A session in colour prints what it prints without, and puts sequences around the summaries of some
tokens.

**Theorem (`run_coloured`).** Without these sequences the output is that of the session without
colour; and between the opening of a colour and the next reset stands the summary of an illegal
token or of a reserved word, once for each.

The input may hold escapes, which are printed as they are. But a scanner gives an escape a token of
its own, so that in print it stands in front of a parenthesis and begins no sequence
(`summary_cases`). The rest of the output has no escape if the prompt has none.
-/

namespace MonkeyScan

open Terminal

/-! ## Paint -/

namespace Paint

/-- The parameters of the sequence that opens a colour. -/
def parameters : Paint → List UInt8
  | boldRed => Utf8.bytes "1;31"
  | blue => Utf8.bytes "34"

/-- The parameters of the sequence that resets the terminal. -/
def resetParameters : List UInt8 := Utf8.bytes "0"

/-- The sequences that are used for colours. -/
def isOwn (ps : List UInt8) : Bool :=
  ps = boldRed.parameters || ps = blue.parameters || ps = resetParameters

/-- The colour that an element opens. -/
def ofElement? (e : Element) : Option Paint :=
  [boldRed, blue].find? fun p => .style p.parameters = e

/-- Each opening of a colour, with what stands between it and the next reset. -/
def enclosed : List Element → List (Paint × List Element)
  | [] => []
  | e :: es =>
    match ofElement? e with
    | some p => (p, es.takeWhile fun e => e ≠ .style resetParameters) :: enclosed es
    | none => enclosed es

theorem encode_opening (p : Paint) :
    Utf8.encode p.opening = (Element.style p.parameters).bytes := by
  cases p <;> decide +kernel

theorem encode_reset : Utf8.encode reset = (Element.style resetParameters).bytes := by
  decide +kernel

theorem reopen_of_not_mem (p : Paint) {cs : List Char} (h : '\x1b' ∉ cs) : p.reopen cs = cs := by
  fun_induction reopen p cs with
  | case1 => rfl
  | case2 c cs ih => exact absurd List.mem_cons_self h
  | case3 c cs _ ih => rw [ih fun hmem => h (List.mem_cons_of_mem c hmem)]

theorem enclosed_bytes (bs : List UInt8) : Makes enclosed (bs.map .byte) [] := by
  intro rest
  induction bs with
  | nil => rfl
  | cons b bs ih => exact ih

theorem ofElement?_style (p : Paint) : ofElement? (.style p.parameters) = some p := by
  cases p <;> decide +kernel

theorem ofElement?_reset : ofElement? (.style resetParameters) = none := by decide +kernel

theorem enclosed_colour (p : Paint) (bs : List UInt8) :
    Makes enclosed (.style p.parameters :: bs.map .byte ++ [.style resetParameters])
      [(p, bs.map .byte)] := by
  intro rest
  have hpart : (bs.map Element.byte ++ .style resetParameters :: rest).takeWhile
      (fun e => e ≠ .style resetParameters) = bs.map .byte := by
    rw [List.takeWhile_append_of_pos, List.takeWhile_cons_of_neg, List.append_nil]
    · simp
    · intro e he
      obtain ⟨b, -, rfl⟩ := List.mem_map.1 he
      rfl
  have hreset : enclosed (.style resetParameters :: rest) = enclosed rest := by
    rw [enclosed, ofElement?_reset]
  rw [List.cons_append, List.cons_append, List.append_assoc, List.singleton_append, enclosed,
    ofElement?_style]
  simp only [hpart, enclosed_bytes bs (.style resetParameters :: rest), hreset]
  rfl

end Paint

namespace Session

/-! ## Summaries -/

theorem escape_not_mem_summary {t : Token} (h : '\x1b' ∉ t.literal.toList) :
    '\x1b' ∉ t.summary.toList := by
  have hname : '\x1b' ∉ t.kind.name.toList := by
    intro hmem
    cases t.kind.isLetter_of_mem_name hmem
  unfold Token.summary
  split
  · exact hname
  · simp [hname, h]

/-- A summary that holds an escape is that of the illegal token for it. -/
theorem summary_cases {p : Position} {cs : List Char} {t : Token} (h : t ∈ tokensFrom p cs) :
    '\x1b' ∉ t.summary.toList ∨ t.summary = "ILLEGAL(\x1b)" := by
  obtain ⟨u, c, cs, -, -, rfl⟩ := exists_lexeme_of_mem h
  have hfront := Lexeme.front_first c cs
  generalize Lexeme.first c cs = l at hfront
  cases hfront with
  | keyword k => exact .inl (escape_not_mem_summary List.not_mem_nil)
  | symbol s => exact .inl (escape_not_mem_summary List.not_mem_nil)
  | ident hc => exact .inl (escape_not_mem_summary (not_mem_ofList hc rfl))
  | int _ hc => exact .inl (escape_not_mem_summary (not_mem_ofList hc rfl))
  | illegal =>
    by_cases hc : c = '\x1b'
    · subst hc
      exact .inr rfl
    · refine .inl (escape_not_mem_summary ?_)
      show '\x1b' ∉ (String.ofList [c]).toList
      rw [String.toList_ofList, List.mem_singleton]
      exact Ne.symm hc

/-- No sequence begins in a summary, whatever stands behind it. -/
theorem makes_elements_summary {s : String} (h : '\x1b' ∉ s.toList ∨ s = "ILLEGAL(\x1b)") :
    Makes elements (Utf8.bytes s) ((Utf8.bytes s).map .byte) := by
  rcases h with h | rfl
  · exact makes_elements_encode h
  · have hname : Makes elements (Utf8.bytes "ILLEGAL(") ((Utf8.bytes "ILLEGAL(").map .byte) :=
      makes_elements_encode (by decide)
    exact hname.append (makes_elements_escape (b := 0x29) (by decide) (by decide))

theorem reopen_summary (p : Paint) {s : String}
    (h : '\x1b' ∉ s.toList ∨ s = "ILLEGAL(\x1b)") : p.reopen s.toList = s.toList := by
  rcases h with h | rfl
  · exact p.reopen_of_not_mem h
  · cases p <;> decide +kernel

/-- A painted summary, taken apart. -/
theorem makes_elements_apply (p : Paint) {s : String}
    (h : '\x1b' ∉ s.toList ∨ s = "ILLEGAL(\x1b)") :
    Makes elements (Utf8.bytes (p.apply s))
      (.style p.parameters :: (Utf8.bytes s).map .byte ++ [.style Paint.resetParameters]) := by
  have hopening : Makes elements (Element.style p.parameters).bytes [.style p.parameters] :=
    makes_elements_style (by cases p <;> decide +kernel)
  have hreset : Makes elements (Element.style Paint.resetParameters).bytes
      [.style Paint.resetParameters] := makes_elements_style (by decide +kernel)
  have hbytes : Utf8.bytes (p.apply s) = (Element.style p.parameters).bytes ++ Utf8.bytes s ++
      (Element.style Paint.resetParameters).bytes := by
    rw [Utf8.bytes, Paint.apply, String.toList_ofList, reopen_summary p h, Utf8.encode_append,
      Utf8.encode_append, Paint.encode_opening, Paint.encode_reset]
    rfl
  rw [hbytes]
  exact (hopening.append (makes_elements_summary h)).append hreset

/-! ## Rows -/

/-- What stands behind the summary in a row, with the end of the row. -/
def Config.behindSummary (cfg : Config) (t : Token) : String :=
  (if cfg.showPositions then " @ " ++ t.position.text else "") ++ "\n"

theorem escape_not_mem_behindSummary (cfg : Config) (t : Token) :
    '\x1b' ∉ (cfg.behindSummary t).toList := by
  have hnumber : ∀ n, '\x1b' ∉ Nat.toDigits 10 n := Text.not_mem_toDigits rfl
  unfold Config.behindSummary
  split
  · simp [Position.text, Nat.toString_eq_repr, hnumber]
  · decide

theorem bytes_append (s t : String) : Utf8.bytes (s ++ t) = Utf8.bytes s ++ Utf8.bytes t := by
  rw [Utf8.bytes, String.toList_append, Utf8.encode_append]
  rfl

/-- A row is the summary, painted or not, and what stands behind it. -/
theorem bytes_render (cfg : Config) (coloursShown : Bool) (t : Token) :
    Utf8.bytes (cfg.render coloursShown t ++ "\n") =
      Utf8.bytes (match if cfg.colour && coloursShown then paint? t else none with
        | some p => p.apply t.summary
        | none => t.summary) ++ Utf8.bytes (cfg.behindSummary t) := by
  rw [← bytes_append, Config.render, Config.behindSummary]
  cases if cfg.colour && coloursShown then paint? t else none with
  | none => cases cfg.showPositions <;> simp [String.append_assoc]
  | some p => cases cfg.showPositions <;> simp [String.append_assoc]

/-- A row of a session in colour, taken apart. -/
def rowElements (cfg : Config) (t : Token) : List Element :=
  (match paint? t with
    | some p =>
      .style p.parameters :: (Utf8.bytes t.summary).map .byte ++ [.style Paint.resetParameters]
    | none => (Utf8.bytes t.summary).map .byte) ++ (Utf8.bytes (cfg.behindSummary t)).map .byte

theorem makes_elements_row (cfg : Config) {p : Position} {cs : List Char} {t : Token}
    (h : t ∈ tokensFrom p cs) :
    Makes elements (Utf8.bytes (({ cfg with colour := true } : Config).render true t ++ "\n"))
      (rowElements cfg t) := by
  have hsummary := summary_cases h
  have hbehind := makes_elements_encode (escape_not_mem_behindSummary cfg t)
  rw [bytes_render, rowElements]
  simp only [Bool.and_self, if_true]
  cases paint? t with
  | none => exact (makes_elements_summary hsummary).append hbehind
  | some p => exact (makes_elements_apply p hsummary).append hbehind

/-- Without the sequences of colours, a row in colour is the row without. -/
theorem kept_rowElements (cfg : Config) (t : Token) :
    (rowElements cfg t).flatMap (Element.kept Paint.isOwn) =
      Utf8.bytes t.summary ++ Utf8.bytes (cfg.behindSummary t) := by
  have hreset : Paint.isOwn Paint.resetParameters = true := by decide +kernel
  have hopening (p : Paint) : Paint.isOwn p.parameters = true := by cases p <;> decide +kernel
  rw [rowElements, List.flatMap_append, flatMap_kept_byte]
  split
  · simp [Element.kept, hreset, hopening, flatMap_kept_byte]
  · rw [flatMap_kept_byte]

/-- The part of a row that stands in a colour, if there is one. -/
def colouredPart? (t : Token) : Option (Paint × List Element) :=
  (paint? t).map fun p => (p, (Utf8.bytes t.summary).map .byte)

theorem enclosed_rowElements (cfg : Config) (t : Token) :
    Makes Paint.enclosed (rowElements cfg t) (colouredPart? t).toList := by
  have hbehind := Paint.enclosed_bytes (Utf8.bytes (cfg.behindSummary t))
  cases hpaint : paint? t with
  | none =>
    rw [rowElements, colouredPart?, hpaint]
    exact (Paint.enclosed_bytes _).append hbehind
  | some p =>
    rw [rowElements, colouredPart?, hpaint]
    exact (Paint.enclosed_colour p _).append hbehind

/-! ## Sessions -/

/-- The output of a session in colour, taken apart. -/
def dialogueElements (cfg : Config) (lines : List (List UInt8)) : List Element :=
  (lines.flatMap fun line => (Utf8.bytes cfg.prompt).map .byte ++
    (scanLine line).tokens.flatMap (rowElements cfg)) ++
  (Utf8.bytes cfg.prompt).map .byte

theorem elements_dialogue {cfg : Config} (h : '\x1b' ∉ cfg.prompt.toList)
    (lines : List (List UInt8)) :
    elements (dialogue { cfg with colour := true } true lines) = dialogueElements cfg lines := by
  have hprompt := makes_elements_encode h
  have hrows (line : List UInt8) :
      Makes elements
        ((scanLine line).tokens.flatMap fun t =>
          Utf8.bytes (({ cfg with colour := true } : Config).render true t ++ "\n"))
        ((scanLine line).tokens.flatMap (rowElements cfg)) :=
    Makes.flatMap fun t ht => makes_elements_row cfg ht
  exact Makes.eq ((Makes.flatMap fun line _ => hprompt.append (hrows line)).append hprompt) rfl

theorem kept_dialogueElements {cfg : Config} {colour coloursShown : Bool}
    (h : (colour && coloursShown) = false) (lines : List (List UInt8)) :
    (dialogueElements cfg lines).flatMap (Element.kept Paint.isOwn) =
      dialogue { cfg with colour := colour } coloursShown lines := by
  have hrow (t : Token) :
      Utf8.bytes (({ cfg with colour := colour } : Config).render coloursShown t ++ "\n") =
        (rowElements cfg t).flatMap (Element.kept Paint.isOwn) := by
    rw [bytes_render, h, kept_rowElements]
    rfl
  simp only [dialogueElements, dialogue, List.flatMap_append, List.flatMap_assoc,
    flatMap_kept_byte, hrow]

theorem enclosed_dialogueElements (cfg : Config) (lines : List (List UInt8)) :
    Paint.enclosed (dialogueElements cfg lines) =
      (lines.flatMap fun line => (scanLine line).tokens).filterMap colouredPart? := by
  have hprompt := Paint.enclosed_bytes (Utf8.bytes cfg.prompt)
  have hlines : Makes Paint.enclosed (dialogueElements cfg lines)
      ((lines.flatMap fun line => [] ++
        (scanLine line).tokens.flatMap fun t => (colouredPart? t).toList) ++ []) :=
    (Makes.flatMap fun line _ => hprompt.append
      (Makes.flatMap fun t _ => enclosed_rowElements cfg t)).append hprompt
  rw [hlines.eq rfl, List.append_nil, List.filterMap_flatMap]
  congr 1
  funext line
  rw [List.nil_append, List.filterMap_eq_flatMap_toList]

/-- A session on a sink without faults does all that it has to do. -/
theorem run_unlimited (cfg : Config) (coloursShown : Bool) (input : Input) :
    (run cfg coloursShown input .unlimited).EndsWith
      (if input.failsAtEnd then .error .sourceFailed else .ok (stats input.lines))
      (dialogue cfg coloursShown input.lines) (input.lines.length + 1) := by
  refine run_of_fits (fun n hn => ?_) fun ⟨k, hk, _⟩ => ?_
  · cases hn
  · cases hk

/-- **Colours.** Let a session be run with and without colours, on a sink without faults and with a
prompt that holds no escape. Both end alike, with the same counts and as many flushes. Without the
sequences of colours the outputs are the same, byte for byte. And what stands between the opening of
a colour and the next reset is, from the first to the last, the summary of a token that is illegal
or a reserved word, in its colour. -/
theorem run_coloured (cfg : Config) (input : Input) (hprompt : '\x1b' ∉ cfg.prompt.toList)
    {colour coloursShown : Bool} (hplain : (colour && coloursShown) = false) :
    let plain := run { cfg with colour := colour } coloursShown input .unlimited
    let painted := run { cfg with colour := true } true input .unlimited
    painted.result = plain.result ∧ painted.transcript.flushes = plain.transcript.flushes ∧
      erase Paint.isOwn painted.transcript.output = plain.transcript.output ∧
      Paint.enclosed (elements painted.transcript.output) =
        (input.lines.flatMap fun line => (scanLine line).tokens).filterMap fun t =>
          if t.isIllegal then some (.boldRed, (Utf8.bytes t.summary).map .byte)
          else if t.kind.isKeyword then some (.blue, (Utf8.bytes t.summary).map .byte)
          else none := by
  intro plain painted
  obtain ⟨hresult, houtput, hflushes⟩ :=
    run_unlimited { cfg with colour := colour } coloursShown input
  obtain ⟨hresult', houtput', hflushes'⟩ := run_unlimited { cfg with colour := true } true input
  have helements : elements painted.transcript.output = dialogueElements cfg input.lines := by
    rw [houtput', elements_dialogue hprompt]
  refine ⟨hresult'.trans hresult.symm, hflushes'.trans hflushes.symm, ?_, ?_⟩
  · rw [erase, helements, kept_dialogueElements hplain]
    exact houtput.symm
  · rw [helements, enclosed_dialogueElements]
    congr 1
    funext t
    unfold colouredPart? paint?
    split
    · rfl
    · split <;> rfl

/-- An escape and a bracket in the input. -/
theorem run_coloured_at_escape :
    '\x1b' ∉ Config.default.prompt.toList ∧ (false && false) = false ∧
    let input : Input := ⟨Utf8.bytes "let \x1b[", false⟩
    let plain := run { Config.default with colour := false } false input .unlimited
    let painted := run { Config.default with colour := true } true input .unlimited
    painted.result = plain.result ∧ painted.transcript.flushes = plain.transcript.flushes ∧
      erase Paint.isOwn painted.transcript.output = plain.transcript.output ∧
      Paint.enclosed (elements painted.transcript.output) =
        [(.blue, (Utf8.bytes "LET").map .byte),
          (.boldRed, (Utf8.bytes "ILLEGAL(\x1b)").map .byte),
          (.boldRed, (Utf8.bytes "ILLEGAL([)").map .byte)] := by
  have hprompt : '\x1b' ∉ Config.default.prompt.toList := by decide
  have hplain : (false && false) = false := rfl
  have htokens : ((⟨Utf8.bytes "let \x1b[", false⟩ : Input).lines.flatMap fun line =>
      (scanLine line).tokens) =
      [⟨.keyword .kwLet, "", ⟨1, 1, 0⟩, 3⟩, ⟨.illegal, "\x1b", ⟨1, 5, 4⟩, 1⟩,
        ⟨.illegal, "[", ⟨1, 6, 5⟩, 1⟩] := by decide +kernel
  have hsession := run_coloured .default ⟨Utf8.bytes "let \x1b[", false⟩ hprompt hplain
  rw [htokens] at hsession
  exact ⟨hprompt, hplain, hsession⟩

end Session

end MonkeyScan
