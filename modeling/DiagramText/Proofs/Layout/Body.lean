import DiagramText.Proofs.Block.Correspondence
import DiagramText.Proofs.Layout.Sequence

/-!
# The body in the layout of a sequence diagram

The layout moves the declarations out of the body and mends the lines that stay, but no line of the body changes its
kind (`map_kind_formatSequence`). So every line of the body keeps the block around it (`formatSequence_keeps_nesting`).
-/

namespace DiagramText

open Text

section Body

variable {text : Text} {w : Nat}

/-- The body of a formatted sequence diagram consists of the texts of its rows. -/
theorem region_formatSequence (w : Nat) (text : Text) :
    region LineKind.isBody (bodies (lines (formatSequence (indentUnit w) text))) =
      (region LineKind.isBody (bodies (lines text))).map (·.map sequenceText) := by
  have hregions := areRegions_lines text
  have hpage : sequencePage (lines text) = regionsPage _ _ :=
    sequencePage_eq_regionsPage fun _ hl => newline_not_mem_lines hl
  rw [formatSequence, hpage, ← region_squeeze, squeeze_bodies_render (isGap_indentUnit w)
    (newline_not_mem_indentUnit w) fun row hr => hregions.isTight_of_mem hr, hregions.squeeze_regionsPage,
    hregions.region_body]

/-- The lines of the body are those of the text in their order and in their canonical form. -/
theorem map_trim_formatSequence (w : Nat) (text : Text) :
    (linesOfKind LineKind.isBody (lines (formatSequence (indentUnit w) text))).map trim =
      (linesOfKind LineKind.isBody (lines text)).map sequenceText := by
  rw [← entries_region (fun _ hl => newline_not_mem_lines hl) rfl, region_formatSequence, entries_map,
    entries_region (fun _ hl => newline_not_mem_lines hl) rfl, List.map_map]
  exact List.map_congr_left fun line _ => sequenceText_trim line

/-- The lines of the body keep their kinds. -/
theorem map_kind_formatSequence (w : Nat) (text : Text) :
    (linesOfKind LineKind.isBody (lines (formatSequence (indentUnit w) text))).map (LineKind.ofLine .sequence) =
      (linesOfKind LineKind.isBody (lines text)).map (LineKind.ofLine .sequence) := by
  have htrim : LineKind.ofLine .sequence ∘ trim = LineKind.ofLine .sequence := funext (ofLine_trim .sequence)
  rw [← htrim, ← List.map_map, map_trim_formatSequence, List.map_map, htrim]
  refine List.map_congr_left fun line hl => ?_
  obtain ⟨hl, hbody⟩ := List.mem_filter.mp hl
  have hn : '\n' ∉ line := newline_not_mem_lines hl
  have hk : LineKind.ofLine .sequence line ≠ .blank := by
    intro hblank
    rw [hblank] at hbody
    cases hbody
  have htight : IsTight (trim line) := isTight_trim hn (isFilled_iff.mp (isFilled_of_kind hn rfl hk))
  show LineKind.ofLine .sequence (sequenceText line) = LineKind.ofLine .sequence line
  rw [← sequenceText_trim, ofLine_sequenceText htight, ofLine_trim]

theorem map_kind_bodyLines (d : Document) : d.bodyLines.map (fun n => LineKind.ofLine .sequence (d.line n)) =
    (linesOfKind LineKind.isBody d.lines).map (LineKind.ofLine .sequence) := by
  rw [linesOfKind, ← map_line_bodyLines, List.map_map]
  rfl

/-- **The layout of a sequence diagram keeps the nesting of its blocks.** The bodies of the text and of the result have
as many lines. Each line of the one has the kind of the line at the same place of the other, and where there is a
closed block around either of them, there is one around both: the innermost blocks are of the same kind, and their first
lines, and their last lines, are at the same place of the bodies. -/
theorem formatSequence_keeps_nesting (w : Nat) (text : Text) :
    let source := Document.ofText text
    let result := Document.ofText (formatSequence (indentUnit w) text)
    List.Forall₂ (fun n m => LineKind.ofLine .sequence (source.line n) = LineKind.ofLine .sequence (result.line m) ∧
        Option.Rel (SameBlock source result) (source.enclosingBlock? .sequence n) (result.enclosingBlock? .sequence m))
      source.bodyLines result.bodyLines := by
  intro source result
  have hkinds : source.bodyLines.map (fun n => LineKind.ofLine .sequence (source.line n)) =
      result.bodyLines.map fun n => LineKind.ofLine .sequence (result.line n) := by
    rw [map_kind_bodyLines, map_kind_bodyLines]
    exact (map_kind_formatSequence w text).symm
  have hbody := forall₂_bodyLines hkinds
  exact hbody.imp fun n m hline => ⟨hline.kind, rel_enclosingBlock? hbody hline.place⟩

end Body

end DiagramText
