import DiagramText.Proofs.Layout.Flowchart

/-!
# Repeated passes over a flowchart

An edge whose source is a keyword is written with a space behind its source, so that the next pass reads the line as a
header or as the opening of a block, and mends no edge in it any more (`no_keyword_flowchartText`). All lines of a
formatted flowchart are therefore settled (`settled_formatFlowchart`): a second pass may move lines, but a third one
changes nothing (`formatFlowchart_settles`).
-/

namespace DiagramText

open Text

section Rows

variable {line text : Text}

/-- The text of a row is no edge whose source is a keyword. -/
theorem no_keyword_flowchartText (h : IsTight line) :
    isHeaderEdge (flowchartText line) = false ∧ isBlockEdge (flowchartText line) = false := by
  have htight := isTight_flowchartText h
  have hfix := flowchartText_flowchartText h
  refine ⟨Bool.eq_false_iff.mpr fun hedge => ?_, Bool.eq_false_iff.mpr fun hedge => ?_⟩
  · have hheader := ofLine_of_isHeaderEdge htight hedge
    rw [hfix] at hheader
    rcases kind_of_edge (Or.inl hedge) with hk | hk <;> cases hheader.symm.trans hk
  · have hblock := ofLine_of_isBlockEdge htight hedge
    rw [hfix] at hblock
    rcases kind_of_edge (Or.inr hedge) with hk | hk <;> cases hblock.symm.trans hk

/-- The lines of a formatted flowchart are the texts of its rows behind their indentation. -/
theorem exists_source_of_mem_formatFlowchart {w : Nat} (hline : line ∈ lines (formatFlowchart (indentUnit w) text))
    (hf : isFilled line = true) : ∃ source, IsTight source ∧ trim line = flowchartText source := by
  have hbody : some (trim line) ∈ squeeze (bodies (lines (formatFlowchart (indentUnit w) text))) :=
    some_mem_squeeze.mpr (List.mem_map.mpr ⟨line, hline, if_pos hf⟩)
  rw [squeeze_bodies_formatFlowchart] at hbody
  obtain ⟨x, hx, htext⟩ := List.mem_map.mp hbody
  obtain ⟨source, rfl, hsource⟩ := Option.map_eq_some_iff.mp htext
  exact ⟨source, isTight_of_mem_squeeze hx, hsource.symm⟩

end Rows

section Passes

/-- All lines of a formatted flowchart keep their place. -/
theorem settled_formatFlowchart (w : Nat) (text : Text) :
    Settled 0 ((lines (formatFlowchart (indentUnit w) text)).filter isFilled) := by
  rw [← settled_map_trim]
  refine settled_of_no_keyword (fun body hbody => ?_) 0
  obtain ⟨line, hline, rfl⟩ := List.mem_map.mp hbody
  obtain ⟨hline, hf⟩ := List.mem_filter.mp hline
  obtain ⟨source, hsource, htext⟩ := exists_source_of_mem_formatFlowchart hline hf
  rw [htext]
  exact no_keyword_flowchartText hsource

/-- A second pass changes nothing but the indentation of lines. -/
theorem map_trimStart_formatFlowchart (w : Nat) (text : Text) :
    (lines (formatFlowchart (indentUnit w) (formatFlowchart (indentUnit w) text))).map trimStart =
      (lines (formatFlowchart (indentUnit w) text)).map trimStart :=
  map_trimStart_lines_render (isGap_indentUnit w) (newline_not_mem_indentUnit w)
    (fun _ hr => isTight_of_mem_flowchartPage hr) (fun _ hr => isTight_of_mem_flowchartPage hr)
    (map_text_formatFlowchart w text)

/-- **Two passes settle a flowchart.** The second pass keeps the number of lines, and each line up to its indentation;
a third one changes nothing. -/
theorem formatFlowchart_settles (w : Nat) (text : Text) :
    let format := formatFlowchart (indentUnit w)
    (lines (format (format text))).length = (lines (format text)).length ∧
      (lines (format (format text))).map trimStart = (lines (format text)).map trimStart ∧
      format (format (format text)) = format (format text) := by
  intro format
  have hlines : (lines (format (format text))).map trimStart = (lines (format text)).map trimStart :=
    map_trimStart_formatFlowchart w text
  refine ⟨?_, hlines, ?_⟩
  · have hlength := congrArg List.length hlines
    rwa [List.length_map, List.length_map] at hlength
  · exact (formatFlowchart_eq_self_iff w (format text)).mpr (Or.inr (settled_formatFlowchart w text))

end Passes

end DiagramText
