import MonkeyScan.Proofs.Diagnostic.Character
import MonkeyScan.Proofs.Report
import MonkeyScan.Proofs.Sink

/-!
# Displays of a report

The place of an error is worked out twice: by the scanner, which counts lines and columns as it
reads, and for the display, which looks up the line of an offset and counts again in it.

**Theorem (`emit_in_place`).** For every source the two agree. What is written for an error names
the line and the column of the error, shows that line, and has its marks under the character.

Both are compared with the source cut around the character: the place of the error is the one
behind the text in front of it, and the line of the display is the one that the cut goes through.
-/

namespace MonkeyScan

open Text

/-- An error is a character of the source outside the alphabet, with the place behind the text in
front of it. -/
theorem IllegalCharacter.exists_of_mem_ofSource {source : List Char} {e : IllegalCharacter}
    (h : e ∈ ofSource source) :
    ∃ u v, source = u ++ e.char :: v ∧ e.char ∉ alphabet ∧ e.position = .behind u := by
  obtain ⟨⟨c, i⟩, hmem, hat⟩ := List.mem_filterMap.1 h
  have hi : source[i]? = some c := List.mk_mem_zipIdx_iff_getElem?.1 hmem
  obtain ⟨hlt, hc⟩ := List.getElem?_eq_some_iff.1 hi
  by_cases hlegal : c ∈ alphabet
  · simp [at?, hlegal] at hat
  · simp only [at?, hlegal, if_false, Option.some.injEq] at hat
    subst hat
    refine ⟨source.take i, source.drop (i + 1), ?_, hlegal, rfl⟩
    rw [← hc, List.getElem_cons_drop, List.take_append_drop]

namespace Report

/-- What is read in the display of a character, for a source that is cut around it. -/
theorem map_renderAll_rows {before head tail behind : List Char} {c : Char}
    (hbefore : Line.Ended before) (hline : '\n' ∉ head ++ c :: tail)
    (hbehind : Line.Begun behind) (name : String) :
    let e : IllegalCharacter := ⟨c, .behind (before ++ head)⟩
    (e.diagnostic.rows name (Line.ofSource (before ++ (head ++ c :: tail ++ behind)))).map
        (Span.renderAll false) =
      Diagnostic.textRows e.title name e.position.line e.position.column
        (Diagnostic.expandTabs (trimEnd Diagnostic.isLineEnd (head ++ c :: tail)))
        ((IllegalCharacter.diagnostic ⟨c, .behind head⟩).marksUnder
          (trimEnd Diagnostic.isLineEnd (head ++ c :: tail))) e.diagnostic.remark := by
  have hhead : '\n' ∉ head := fun h => hline (List.mem_append_left _ h)
  obtain ⟨hnumber, hcolumn⟩ := Position.behind_ended_append hbefore hhead
  have hcounted : Diagnostic.columnAt ⟨1 + before.count '\n', 0, head ++ c :: tail⟩
      (Utf8.size head) = 1 + head.length := by
    have h := Diagnostic.columnAt_append (1 + before.count '\n') 0 head (c :: tail)
    rwa [Nat.zero_add, Nat.add_comm head.length] at h
  intro e
  have hstart : (IllegalCharacter.diagnostic ⟨c, .behind head⟩).start = Utf8.size head := rfl
  rw [rows_illegal hbefore hline hbehind, Diagnostic.map_renderAll_rowsOn, hnumber, hcolumn, hstart,
    hcounted]
  rfl

/-- **Displays in place.** What is written are the rows of each error. The diagnostic is on the
bytes of its character alone; the rows name its line and column and show that line. Under a
character with columns of its own there is a mark for each of them, and as many blanks are in front
of the marks as the text in front of the character takes. -/
theorem emit_in_place (name : String) (source : List Char) :
    (∀ coloured, ((check name source).emit coloured .unlimited).output =
      (check name source).errors.flatMap fun e => Utf8.encode
        ((e.diagnostic.rows name (Line.ofSource source)).flatMap fun row =>
          Span.renderAll coloured row ++ ['\n'])) ∧
    ∀ e ∈ (check name source).errors, ∃ u v head tail marks,
      source = u ++ [e.char] ++ v ∧ e.diagnostic.start = Utf8.size u ∧
      e.diagnostic.stop = Utf8.size (u ++ [e.char]) ∧
      head <:+ u ∧ tail <+: v ∧ e.position.column = head.length + 1 ∧
      (split '\n' source)[e.position.line - 1]? = some (head ++ e.char :: tail) ∧
      (e.diagnostic.rows name (Line.ofSource source)).map (Span.renderAll false) =
        Diagnostic.textRows e.title name e.position.line e.position.column
          (Diagnostic.expandTabs (trimEnd Diagnostic.isLineEnd (head ++ e.char :: tail))) marks
          "not part of any token" ∧
      (width e.char ≠ 0 →
        marks = List.replicate (Diagnostic.columns (Diagnostic.expandTabs head)) ' ' ++
          List.replicate (width e.char) '^') := by
  refine ⟨fun coloured => ?_, fun e he => ?_⟩
  · rw [emit, Sink.perform_unlimited, displays, List.map_map, List.flatMap_map]
    rfl
  rw [errors_check] at he
  obtain ⟨u, v, rfl, hlegal, hposition⟩ := IllegalCharacter.exists_of_mem_ofSource he
  obtain ⟨c, p⟩ := e
  obtain rfl : p = .behind u := hposition
  obtain ⟨before, head, rfl, hbefore, hhead⟩ := Line.exists_ended u
  obtain ⟨tail, behind, rfl, htail, hbehind⟩ := Line.exists_begun v
  have hne : ∀ d ∈ alphabet, c ≠ d := fun d hd hcd => hlegal (hcd ▸ hd)
  have hline : '\n' ∉ head ++ c :: tail := by
    rw [List.mem_append, List.mem_cons, not_or, not_or]
    exact ⟨hhead, Ne.symm (hne '\n' (by decide)), htail⟩
  obtain ⟨hnumber, hcolumn⟩ := Position.behind_ended_append hbefore hhead
  have hsource : before ++ head ++ c :: (tail ++ behind) =
      before ++ (head ++ c :: tail ++ behind) := by simp
  refine ⟨before ++ head, tail ++ behind, head, tail,
    (IllegalCharacter.diagnostic ⟨c, .behind head⟩).marksUnder
      (trimEnd Diagnostic.isLineEnd (head ++ c :: tail)), by simp, rfl, ?_,
    List.suffix_append before head, List.prefix_append tail behind, ?_, ?_, ?_, fun hwidth => ?_⟩
  · rw [Utf8.size_append]
    rfl
  · rw [hcolumn, Nat.add_comm]
  · rw [hsource, hnumber, Nat.add_sub_cancel_left]
    exact Line.getElem?_split hbefore hline hbehind
  · rw [hsource]
    exact map_renderAll_rows hbefore hline hbehind name
  · exact Diagnostic.marksUnder_character (hne '\t' (by decide)) hwidth

end Report

end MonkeyScan
