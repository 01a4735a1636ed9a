import MonkeyScan.Proofs.Diagnostic.Character
import MonkeyScan.Proofs.Report
import MonkeyScan.Proofs.Scanner.LineEnds
import MonkeyScan.Proofs.Session.IllFormed

/-!
# Sources with line ends of two characters

The returns in front of line feeds can be taken out of a source and nothing that is shown of it
changes: tokens have the same lines and columns, diagnostics look the same, a session prints the
same. Only offsets are less, by one for each pair in front.

**Theorem (`shown_dropReturns`).** This holds of every source.

For tokens it is `forall₂_scan_dropReturns`. An illegal character is displayed by its line alone
(`rows_illegal`), of which the number and all up to the character are kept, and behind the
character nothing goes but a return at the end, which is not shown in any case. A session trims
the end of each line too, before it scans it.
-/

namespace MonkeyScan

open Text

/-! ## A character in its line -/

theorem ne_of_isBlank {c d : Char} (hc : isBlank c = false) (hd : isBlank d = true) : c ≠ d := by
  rintro rfl
  rw [hc] at hd
  cases hd

/-- What goes out of the lines in front of a line does not reach into it. -/
theorem dropReturns_ended_append {before : List Char} (hbefore : Line.Ended before)
    (cs : List Char) : dropReturns (before ++ cs) = dropReturns before ++ dropReturns cs := by
  refine dropReturns_append fun hlast => ?_
  rcases hbefore with rfl | hfeed
  · cases hlast
  · rw [hfeed] at hlast
    cases hlast

theorem ended_dropReturns {before : List Char} (hbefore : Line.Ended before) :
    Line.Ended (dropReturns before) := by
  rcases hbefore with rfl | hfeed
  · exact Or.inl rfl
  · exact Or.inr ((getLast?_dropReturns before).trans hfeed)

/-- Of a text with lines behind its first one, what goes from the first line is nothing or a
return at its end. -/
theorem exists_dropReturns_begun {line behind : List Char} (hline : '\n' ∉ line)
    (hbehind : Line.Begun behind) :
    ∃ body tail behind', line = body ++ tail ∧ (tail = [] ∨ tail = ['\r']) ∧
      Line.Begun behind' ∧ dropReturns (line ++ behind) = body ++ behind' := by
  rcases hbehind with rfl | hhead
  · refine ⟨line, [], [], (List.append_nil line).symm, Or.inl rfl, Or.inl rfl, ?_⟩
    rw [List.append_nil, dropReturns_of_not_mem hline]
  · obtain ⟨rest, rfl⟩ := List.head?_eq_some_iff.1 hhead
    obtain ⟨body, tail, hbody, htail, hdrop⟩ := exists_dropReturns_line hline
    exact ⟨body, tail, '\n' :: dropReturns rest, hbody, htail, Or.inr rfl, hdrop rest⟩

/-- What goes out of a source around a character that is no blank: returns in front of its line
and behind it, and at most one at the end of its line. -/
theorem exists_dropReturns_around {before head tail behind : List Char} {c : Char}
    (hbefore : Line.Ended before) (hhead : '\n' ∉ head) (hc : isBlank c = false)
    (htail : '\n' ∉ tail) (hbehind : Line.Begun behind) :
    ∃ body cut behind', tail = body ++ cut ∧ (cut = [] ∨ cut = ['\r']) ∧ Line.Begun behind' ∧
      dropReturns (before ++ (head ++ c :: tail ++ behind)) =
        dropReturns before ++ (head ++ c :: body ++ behind') := by
  obtain ⟨body, cut, behind', hbody, hcut, hbehind', hdrop⟩ :=
    exists_dropReturns_begun htail hbehind
  have hseam : head.getLast? = some '\r' → (c :: (tail ++ behind)).head? ≠ some '\n' :=
    fun _ h => ne_of_isBlank hc rfl (Option.some.inj h)
  refine ⟨body, cut, behind', hbody, hcut, hbehind', ?_⟩
  rw [dropReturns_ended_append hbefore, List.append_assoc, List.cons_append,
    dropReturns_append hseam, dropReturns_of_not_mem hhead,
    dropReturns_cons_of_ne (ne_of_isBlank hc rfl), hdrop, List.append_assoc, List.cons_append]

/-! ## Displays -/

/-- An illegal character is displayed as in the source without its returns. -/
theorem rows_illegal_dropReturns {source u : List Char} {c : Char} (hu : u ++ [c] <+: source)
    (hc : isBlank c = false) (name : String) :
    (IllegalCharacter.diagnostic ⟨c, .behind (dropReturns u)⟩).rows name
        (Line.ofSource (dropReturns source)) =
      (IllegalCharacter.diagnostic ⟨c, .behind u⟩).rows name (Line.ofSource source) := by
  obtain ⟨v, rfl⟩ := hu
  obtain ⟨before, head, rfl, hbefore, hhead⟩ := Line.exists_ended u
  obtain ⟨tail, behind, rfl, htail, hbehind⟩ := Line.exists_begun v
  have hsource : before ++ head ++ [c] ++ (tail ++ behind) =
      before ++ (head ++ c :: tail ++ behind) := by simp
  obtain ⟨body, cut, behind', rfl, hcut, hbehind', hdrop⟩ :=
    exists_dropReturns_around hbefore hhead hc htail hbehind
  have hline : '\n' ∉ head ++ c :: (body ++ cut) := by
    rw [List.mem_append, List.mem_cons, not_or, not_or]
    exact ⟨hhead, (ne_of_isBlank hc rfl).symm, htail⟩
  have hline' : '\n' ∉ head ++ c :: body := fun h => hline <| by
    rw [← List.cons_append, ← List.append_assoc]
    exact List.mem_append_left cut h
  have hcount : (dropReturns before).count '\n' = before.count '\n' :=
    Nat.add_left_cancel (Position.behind_dropReturns before).1
  have hshown : trimEnd Diagnostic.isLineEnd (head ++ c :: (body ++ cut)) =
      trimEnd Diagnostic.isLineEnd (head ++ c :: body) := by
    rw [← List.cons_append, ← List.append_assoc, trimEnd_append_return rfl hcut]
  have hstart : (IllegalCharacter.diagnostic ⟨c, .behind head⟩).start =
      0 + Utf8.size head := by
    simp only [IllegalCharacter.diagnostic, Position.behind, Nat.zero_add]
  rw [hsource, hdrop, dropReturns_ended_append hbefore, dropReturns_of_not_mem hhead,
    rows_illegal hbefore hline hbehind, rows_illegal (ended_dropReturns hbefore) hline' hbehind',
    hcount, Diagnostic.rowsOn_congr _ name _ hstart hshown]

/-- Tokens of one lexeme are both shown alike, or neither is shown. -/
theorem display_retold {source u : List Char} {c : Char} {t t' : Token}
    (h : Retold source u c t t') (name : String) (coloured : Bool) :
    ((IllegalCharacter.ofToken? t').map fun e =>
        e.diagnostic.render name (Line.ofSource (dropReturns source)) coloured) =
      (IllegalCharacter.ofToken? t).map fun e =>
        e.diagnostic.render name (Line.ofSource source) coloured := by
  obtain ⟨hu, hc, cs, rfl, rfl⟩ := h
  rcases (Lexeme.front_first c cs).isLegal_or_illegal hc with ⟨hkind, -⟩ | ⟨hfirst, -⟩
  · rw [Lexeme.ofToken?_token_of_ne hkind, Lexeme.ofToken?_token_of_ne hkind]
    rfl
  · rw [hfirst, Lexeme.ofToken?_token_illegal, Lexeme.ofToken?_token_illegal, Option.map_some,
      Option.map_some, Diagnostic.render, Diagnostic.render, rows_illegal_dropReturns hu hc]

theorem displays_eq_filterMap (name : String) (source : List Char) (coloured : Bool) :
    (Report.check name source).displays coloured =
      (tokensFrom .start source).filterMap fun t => (IllegalCharacter.ofToken? t).map fun e =>
        e.diagnostic.render name (Line.ofSource source) coloured :=
  List.map_filterMap

/-- The displays of a report are those of the source without its returns. -/
theorem displays_dropReturns (name : String) (source : List Char) (coloured : Bool) :
    (Report.check name (dropReturns source)).displays coloured =
      (Report.check name source).displays coloured := by
  have htokens : List.Forall₂ (fun t t' => ∃ u c, Retold source u c t t')
      (tokensFrom .start source) (tokensFrom .start (dropReturns source)) :=
    forall₂_retold (v := []) (by simp) source
  rw [displays_eq_filterMap, displays_eq_filterMap, ← List.forall₂_eq_eq_eq]
  refine List.rel_filterMap ?_ htokens.flip
  rintro t' t ⟨u, c, h⟩
  have hrefl (o : Option (List Char)) : Option.Rel Eq o o := by
    cases o with
    | none => exact .none
    | some shown => exact .some rfl
  simp only [display_retold h name coloured, hrefl]

/-! ## Sessions -/

/-- The lines of a text without its returns have the texts that a session makes of its lines. -/
theorem map_lineText_dropReturns (text : List Char) :
    ((lines '\n' (dropReturns text)).map Utf8.encode).map Session.lineText =
      ((lines '\n' text).map Utf8.encode).map Session.lineText := by
  induction text using line_induction '\n' with
  | last piece h => rw [dropReturns_of_not_mem h]
  | cons line rest h ih =>
    obtain ⟨body, tail, rfl, htail, hdrop⟩ := exists_dropReturns_line h
    have hbody : '\n' ∉ body := fun hmem => h (List.mem_append_left tail hmem)
    have hline : Session.lineText (Utf8.encode (body ++ tail)) =
        Session.lineText (Utf8.encode body) := by
      rw [Session.lineText, Session.lineText, Utf8.decodeLossy_encode, Utf8.decodeLossy_encode,
        trimEnd_append_return rfl htail]
    rw [hdrop, lines_append_cons hbody, lines_append_cons h, List.map_cons, List.map_cons,
      List.map_cons, List.map_cons, ih, hline]

theorem run_dropReturns (cfg : Session.Config) (coloursShown : Bool) (text : List Char)
    (sink : Sink) :
    Session.run cfg coloursShown ⟨Utf8.encode (dropReturns text), false⟩ sink =
      Session.run cfg coloursShown ⟨Utf8.encode text, false⟩ sink := by
  have htexts :
      (⟨Utf8.encode (dropReturns text), false⟩ : Session.Input).lines.map Session.lineText =
        (⟨Utf8.encode text, false⟩ : Session.Input).lines.map Session.lineText := by
    rw [Session.lines_encode, Session.lines_encode, map_lineText_dropReturns]
  exact Session.run_congr htexts rfl cfg coloursShown sink

/-! ## All that is shown -/

/-- **Line ends of two characters.** A source and the source without the returns in front of its
line feeds have the same tokens one by one, but for offsets, which are less by the pairs in front
of the token; the report of either is written in the same way, and so goes a session on either. -/
theorem shown_dropReturns (name : String) (source : List Char) :
    List.Forall₂ (SameButOffset source) (scan source) (scan (dropReturns source)) ∧
      (∀ coloured sink, (Report.check name (dropReturns source)).emit coloured sink =
        (Report.check name source).emit coloured sink) ∧
      ∀ cfg coloursShown sink,
        Session.run cfg coloursShown ⟨Utf8.encode (dropReturns source), false⟩ sink =
          Session.run cfg coloursShown ⟨Utf8.encode source, false⟩ sink := by
  refine ⟨forall₂_scan_dropReturns source, fun coloured sink => ?_, fun cfg coloursShown sink => ?_⟩
  · rw [Report.emit, Report.emit, displays_dropReturns]
  · exact run_dropReturns cfg coloursShown source sink

end MonkeyScan
