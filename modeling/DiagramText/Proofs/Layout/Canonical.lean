import DiagramText.Proofs.Layout.Flowchart

/-!
# Canonical rows of a flowchart

Lines are canonical where the layout of a flowchart writes them again as they are (`IsCanonical`): the lines of a text
that the layout does not change are so (`isCanonical_rows`), and the layout does not change a text of such lines
(`IsCanonical.formatFlowchart_eq`). A node that stands behind a line, at the depth that the lines so far leave, keeps
the lines canonical (`IsCanonical.insert`).
-/

namespace DiagramText

open Text

/-- The layout of a flowchart writes the lines again as they are. -/
structure IsCanonical (unit : Text) (rows : List Text) : Prop where
  newline : ∀ row ∈ rows, '\n' ∉ row
  squeezed : squeeze (bodies rows) = bodies rows
  laid_out : (threaded flowchartRow 0 (bodies rows)).map (·.elim [] (Row.render unit)) = rows

section Canonical

variable {w : Nat} {unit text : Text} {rows before behind : List Text}

/-- A text that the layout leaves as it is consists of canonical lines. -/
theorem isCanonical_rows (hc : formatFlowchart (indentUnit w) text = text) :
    IsCanonical (indentUnit w) ((flowchartPage 0 (lines text)).rows (indentUnit w)) := by
  have htight : ∀ row, some row ∈ flowchartPage 0 (lines text) → IsTight row.text :=
    fun row hr => isTight_of_mem_flowchartPage hr
  have hunit := newline_not_mem_indentUnit w
  have hbodies : bodies ((flowchartPage 0 (lines text)).rows (indentUnit w)) = squeeze (bodies (lines text)) := by
    rw [bodies_rows (isGap_indentUnit w) htight, ← squeeze_bodies_render (isGap_indentUnit w) hunit htight,
      ← formatFlowchart, hc]
  refine ⟨newline_not_mem_rows hunit htight, ?_, ?_⟩
  · rw [hbodies, squeeze_squeeze]
  · rw [hbodies, ← squeeze_flowchartPage]
    rfl

/-- A text of canonical lines is left as it is. -/
theorem IsCanonical.formatFlowchart_eq (h : IsCanonical unit rows) :
    formatFlowchart unit (unlines rows ++ ['\n']) = unlines rows ++ ['\n'] := by
  rw [formatFlowchart, Page.render, squeeze_flowchartPage, squeeze_bodies_unlines h.newline, h.squeezed, h.laid_out]

/-- The layout of a text is that of its first lines, and of the others at the depth that these leave. -/
theorem threaded_bodies_append (h : ∀ line ∈ before, '\n' ∉ line) (behind : List Text) (depth : Nat) :
    threaded flowchartRow depth (bodies (before ++ behind)) =
      threaded flowchartRow depth (bodies before) ++
        threaded flowchartRow (depthBehind depth before) (bodies behind) := by
  induction before generalizing depth with
  | nil => rfl
  | cons line before ih =>
    have ih' := fun depth => ih (fun l hl => h l (List.mem_cons_of_mem line hl)) depth
    have hblank : LineKind.ofLine .flowchart line = .blank ↔ isFilled line = false :=
      ofLine_eq_blank_iff (h line List.mem_cons_self)
    cases hf : isFilled line with
    | false =>
      have hdepth : depthBehind depth (line :: before) = depthBehind depth before := by
        rw [depthBehind, List.foldl_cons, hblank.mpr hf]
        rfl
      simp only [List.cons_append, bodies, List.map_cons, hf, Bool.false_eq_true, if_false, threaded, hdepth]
      exact congrArg (none :: ·) (ih' depth)
    | true =>
      simp only [List.cons_append, bodies, List.map_cons, hf, if_true, threaded, flowchartRow_trim]
      exact congrArg (some _ :: ·) (ih' _)

/-- Canonical lines stay so with a node behind one of them, at the depth that the lines up to it leave. -/
theorem IsCanonical.insert (h : IsCanonical unit (before ++ behind)) (hgap : IsGap unit) (hunit : '\n' ∉ unit)
    {line : Text} (hlast : before.getLast? = some line) (hfilled : isFilled line = true) (htight : IsTight text)
    (hfix : flowchartText text = text) (hkind : LineKind.ofLine .flowchart text = .declaration) :
    IsCanonical unit (before ++ Row.render unit ⟨depthBehind 0 before, text⟩ :: behind) := by
  have hbefore : ∀ row ∈ before, '\n' ∉ row := fun row hr => h.newline row (List.mem_append_left behind hr)
  have hbody : bodies (Row.render unit ⟨depthBehind 0 before, text⟩ :: behind) = some text :: bodies behind := by
    have htrim : trim (Row.render unit ⟨depthBehind 0 before, text⟩) = text := trim_render hgap htight
    have hf : isFilled (Row.render unit ⟨depthBehind 0 before, text⟩) = true := by
      rw [isFilled_iff, htrim]
      exact htight.ne_nil
    rw [bodies, List.map_cons, if_pos hf, htrim]
    rfl
  have hrow : ∀ depth, flowchartRow depth text = (depth, ⟨depth, text⟩) := by
    intro depth
    rw [flowchartRow, hkind, hfix]
    rfl
  obtain ⟨newline, squeezed, laid_out⟩ := h
  rw [bodies_append] at squeezed
  rw [threaded_bodies_append hbefore, List.map_append] at laid_out
  obtain ⟨hrows, hrest⟩ := List.append_inj laid_out (by rw [List.length_map, length_threaded, bodies, List.length_map])
  refine ⟨fun row hr => ?_, ?_, ?_⟩
  · rcases List.mem_append.mp hr with hr | hr
    · exact hbefore row hr
    · rcases List.mem_cons.mp hr with rfl | hr
      · exact newline_not_mem_render hunit htight
      · exact newline row (List.mem_append_right before hr)
  · have hlast' : (bodies before).getLast? = some (some (trim line)) := by
      rw [bodies, List.getLast?_map, hlast, Option.map_some, if_pos hfilled]
    rw [bodies_append, hbody]
    exact squeeze_insert squeezed hlast' text
  · rw [threaded_bodies_append hbefore, hbody, List.map_append, hrows, threaded, hrow, List.map_cons, hrest]
    rfl

end Canonical

end DiagramText
