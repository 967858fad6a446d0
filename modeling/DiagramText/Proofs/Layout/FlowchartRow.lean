import DiagramText.Layout
import DiagramText.Proofs.Edge.Respacing
import DiagramText.Proofs.Line
import DiagramText.Proofs.Page

/-!
# The rows of a flowchart

- `flowchartRow` is what one line adds to a page: its row, and the depth that it leaves (`flowchartPage_eq_threaded`);
- the text of a row is a fixed point (`flowchartText_flowchartText`);
- the kind of the text of a row is that of the line, as far as the layout goes (`layoutKind_flowchartText`), unless the
  line is an edge whose source is a keyword: with a space behind its source, such an edge is read as a header
  (`ofLine_of_isHeaderEdge`) or opens a block (`ofLine_of_isBlockEdge`).
-/

namespace DiagramText

open Text

/-! ## Rows -/

namespace LineKind

/-- The depth of a row in a flowchart, where the lines before it leave a given depth. -/
def rowDepth : LineKind → Nat → Nat
  | header, _ => 0
  | blockEnd, depth => depth - 1
  | _, depth => depth

/-- The depth that a line of a flowchart leaves. -/
def depthBehind : LineKind → Nat → Nat
  | header, _ => 1
  | blockStart _, depth => depth + 1
  | blockEnd, depth => depth - 1
  | _, depth => depth

end LineKind

/-- The depth that a line of a flowchart leaves, and its row. -/
def flowchartRow (depth : Nat) (line : Text) : Nat × Row :=
  let kind := LineKind.ofLine .flowchart line
  (kind.depthBehind depth, ⟨kind.rowDepth depth, flowchartText line⟩)

section Rows

variable {line : Text}

theorem flowchartText_trim (line : Text) : flowchartText (trim line) = flowchartText line := by
  rw [flowchartText, flowchartText, ofLine_trim, trim_trim]

theorem flowchartRow_trim (depth : Nat) (line : Text) : flowchartRow depth (trim line) = flowchartRow depth line := by
  rw [flowchartRow, flowchartRow, ofLine_trim, flowchartText_trim]

/-- The page of a flowchart passes over the bodies of its lines, a row for each. -/
theorem flowchartPage_eq_threaded {lines : List Text} (h : ∀ line ∈ lines, '\n' ∉ line) (depth : Nat) :
    flowchartPage depth lines = threaded flowchartRow depth (bodies lines) := by
  induction lines generalizing depth with
  | nil => rfl
  | cons line lines ih =>
    have hl : '\n' ∉ line := h line List.mem_cons_self
    have ih' := fun d => ih (fun l hm => h l (List.mem_cons_of_mem line hm)) d
    have hb : LineKind.ofLine .flowchart line = .blank ↔ isFilled line = false := ofLine_eq_blank_iff hl
    rw [flowchartPage.eq_def, bodies, List.map_cons]
    cases hf : isFilled line with
    | false =>
      simp only [hb.mpr hf]
      exact congrArg (none :: ·) (ih' depth)
    | true =>
      have hk : LineKind.ofLine .flowchart line ≠ .blank := fun h' => by
        rw [hb.mp h'] at hf
        cases hf
      rw [if_pos rfl, threaded, flowchartRow_trim]
      simp only [flowchartRow]
      cases hkind : LineKind.ofLine .flowchart line with
      | blank => exact absurd hkind hk
      | _ => exact congrArg (some _ :: ·) (ih' _)

end Rows

/-! ## Edges with a keyword for their source -/

/-- The edge whose spaces are mended in a line of a flowchart. -/
def mendedEdge? (line : Text) : Option Edge :=
  match LineKind.ofLine .flowchart line with
  | .declaration | .statement => Edge.ofText? (trim line)
  | _ => none

/-- Whether a line of a flowchart is an edge with one of some keywords, in any case, for its source. -/
def hasSource (words : List String) (line : Text) : Bool :=
  match mendedEdge? line with
  | some e => words.any (isKeyword · e.source)
  | none => false

/-- Whether a line is an edge whose source is a keyword of the header. -/
def isHeaderEdge (line : Text) : Bool :=
  hasSource ["flowchart", "graph"] line

/-- Whether a line is an edge whose source is the keyword that opens a block. -/
def isBlockEdge (line : Text) : Bool :=
  hasSource ["subgraph"] line

section Kinds

variable {line : Text} {e : Edge}

theorem flowchartText_eq (line : Text) :
    flowchartText line = match mendedEdge? line with | some e => e.toText | none => trim line := by
  rw [flowchartText, mendedEdge?]
  cases LineKind.ofLine .flowchart line <;> rfl

theorem mendedEdge?_trim (line : Text) : mendedEdge? (trim line) = mendedEdge? line := by
  rw [mendedEdge?, mendedEdge?, ofLine_trim, trim_trim]

theorem mendedEdge?_eq_some_iff : mendedEdge? line = some e ↔
    (LineKind.ofLine .flowchart line = .declaration ∨ LineKind.ofLine .flowchart line = .statement) ∧
      Edge.ofText? (trim line) = some e := by
  unfold mendedEdge?
  cases LineKind.ofLine .flowchart line <;> simp

/-- The text of a row is tight. -/
theorem isTight_flowchartText (h : IsTight line) : IsTight (flowchartText line) := by
  have hn := isTight_normalizeEdge h
  rw [flowchartText, h.trim_eq]
  split
  · exact hn
  · exact hn
  · exact h

/-- The text of a row is its line, blanks left aside. -/
theorem dense_flowchartText (hn : '\n' ∉ line) : dense (flowchartText line) = dense line := by
  have htrim : dense (normalizeEdge (trim line)) = dense line := by
    by_cases ht : trim line = []
    · rw [ht, ← dense_trim line, ht]
      rfl
    · rw [dense_normalizeEdge (isTight_trim hn ht).toIsTail, dense_trim]
  unfold flowchartText
  split
  · exact htrim
  · exact htrim
  · exact dense_trim line

/-- The text of a row is a fixed point. -/
theorem flowchartText_flowchartText (h : IsTight line) :
    flowchartText (flowchartText line) = flowchartText line := by
  have htight := isTight_flowchartText h
  have hfix : normalizeEdge (flowchartText line) = flowchartText line ∨ flowchartText line = line := by
    rw [flowchartText, h.trim_eq]
    split
    · exact Or.inl (normalizeEdge_normalizeEdge h.toIsTail)
    · exact Or.inl (normalizeEdge_normalizeEdge h.toIsTail)
    · exact Or.inr rfl
  rcases hfix with hfix | hfix
  · rw [flowchartText, htight.trim_eq]
    split
    · exact hfix
    · exact hfix
    · rfl
  · rw [hfix, hfix]

end Kinds

section Keywords

variable {line source rest : Text} {e : Edge}

/-- With a space behind it, a source is a keyword where nothing else of its line made one. -/
theorem startsWithKeyword_spaced {word : String} (hw : word.toList.any isBlank = false)
    (hno : startsWithKeyword word (source ++ rest) = false) (behind : Text) :
    startsWithKeyword word (source ++ ' ' :: behind) = isKeyword word source := by
  rw [startsWithKeyword_append_blank hw isBlank_space, Bool.eq_iff_iff]
  refine ⟨fun h => ?_, startsWithKeyword_of_isKeyword⟩
  rcases isKeyword_or_startsWithKeyword_append hw h rest with hk | hk
  · exact hk
  · rw [hno] at hk
    cases hk

/-- A rule has not recognized a line that a later one makes a node or an edge. -/
theorem eq_false_of_ite_mended {p : Bool} {a b : LineKind} (ha : a ≠ .declaration ∧ a ≠ .statement)
    (h : (if p then a else b) = .declaration ∨ (if p then a else b) = .statement) :
    p = false ∧ (b = .declaration ∨ b = .statement) := by
  cases p with
  | true => exact absurd h (not_or.mpr ha)
  | false => exact ⟨rfl, h⟩

/-- The line of an edge whose spaces are mended starts with its source, which no rule before the nodes recognizes. -/
theorem source_of_mendedEdge? (h : IsTight line) (he : mendedEdge? line = some e) :
    ∃ rest, line = e.source ++ rest ∧ e.source ≠ [] ∧ (after? "%%".toList line).isSome = false ∧
      isFlowchartHeader line = false ∧ startsWithKeyword "subgraph" line = false ∧
      startsWithKeyword "direction" line = false := by
  obtain ⟨hk, he⟩ := mendedEdge?_eq_some_iff.mp he
  rw [h.trim_eq] at he
  obtain ⟨c, s, hc, _, rest, hline⟩ := Edge.exists_source he
  rw [ofLine_flowchart h] at hk
  obtain ⟨hcomment, hk⟩ := eq_false_of_ite_mended (by decide) hk
  obtain ⟨hheader, hk⟩ := eq_false_of_ite_mended (by decide) hk
  obtain ⟨_, hk⟩ := eq_false_of_ite_mended (by decide) hk
  obtain ⟨hsubgraph, hk⟩ := eq_false_of_ite_mended (by decide) hk
  obtain ⟨hdirection, _⟩ := eq_false_of_ite_mended (by decide) hk
  exact ⟨rest, hline, by rw [hc]; exact List.cons_ne_nil c s, hcomment, hheader, hsubgraph, hdirection⟩

/-- How a mended edge is read: its source may be a keyword now that a space stands behind it. -/
theorem ofLine_toText (h : IsTight line) (he : mendedEdge? line = some e) : LineKind.ofLine .flowchart e.toText =
    if isKeyword "flowchart" e.source || isKeyword "graph" e.source then .header
    else if isKeyword "subgraph" e.source then .blockStart .subgraph
    else if isKeyword "direction" e.source then .directive
    else if LineRule.isNodeDeclaration e.toText then .declaration
    else .statement := by
  obtain ⟨rest, hline, hne, hcomment, hheader, hsubgraph, hdirection⟩ := source_of_mendedEdge? h he
  have htight : IsTight e.toText := by
    have := isTight_flowchartText h
    rwa [flowchartText_eq, he] at this
  rw [hline] at hcomment hheader hsubgraph hdirection
  simp only [isFlowchartHeader, Bool.or_eq_false_iff] at hheader
  obtain ⟨⟨hflowchart, hgraph⟩, hvariant⟩ := hheader
  rw [ofLine_flowchart htight]
  have htext : e.toText = e.source ++ ' ' :: (e.arrow ++ Edge.labelText e.label ++ ' ' :: e.target) := by
    simp [Edge.toText]
  have hend : isKeyword "end" e.toText = false := by
    refine isKeyword_eq_false_of_mem (c := ' ') ?_ (by decide)
    rw [htext]
    exact List.mem_append_right _ List.mem_cons_self
  have hvariant' : startsWithLower "flowchart-" e.toText = false := by
    rw [htext, startsWithLower_append_blank (by decide) isBlank_space]
    cases hk : startsWithLower "flowchart-" e.source with
    | false => rfl
    | true =>
      rw [startsWithLower_append hk rest] at hvariant
      cases hvariant
  have hheader' : isFlowchartHeader e.toText = (isKeyword "flowchart" e.source || isKeyword "graph" e.source) := by
    rw [isFlowchartHeader, hvariant', htext, startsWithKeyword_spaced (by decide) hflowchart,
      startsWithKeyword_spaced (by decide) hgraph, Bool.or_false]
  have hsubgraph' : startsWithKeyword "subgraph" e.toText = isKeyword "subgraph" e.source := by
    rw [htext, startsWithKeyword_spaced (by decide) hsubgraph]
  have hdirection' : startsWithKeyword "direction" e.toText = isKeyword "direction" e.source := by
    rw [htext, startsWithKeyword_spaced (by decide) hdirection]
  have hcomment' : (after? "%%".toList e.toText).isSome = false := by
    rw [htext, comment_append hne hcomment (by decide)]
  rw [hcomment', hheader', hend, hsubgraph', hdirection']
  simp only [Bool.false_eq_true, if_false]

/-- A mended edge whose source is a keyword of the header is read as a header. -/
theorem ofLine_of_isHeaderEdge (h : IsTight line) (hedge : isHeaderEdge line = true) :
    LineKind.ofLine .flowchart (flowchartText line) = .header := by
  rw [isHeaderEdge, hasSource] at hedge
  rw [flowchartText_eq]
  split at hedge
  · next e he =>
    simp only [List.any_cons, List.any_nil, Bool.or_false] at hedge
    rw [ofLine_toText h he, if_pos hedge]
  · cases hedge

/-- A mended edge whose source is the keyword of a block opens one. -/
theorem ofLine_of_isBlockEdge (h : IsTight line) (hedge : isBlockEdge line = true) :
    LineKind.ofLine .flowchart (flowchartText line) = .blockStart .subgraph := by
  rw [isBlockEdge, hasSource] at hedge
  rw [flowchartText_eq]
  split at hedge
  · next e he =>
    simp only [List.any_cons, List.any_nil, Bool.or_false] at hedge
    have hno : ∀ word : String, word.toList ≠ "subgraph".toList → isKeyword word e.source = false := by
      intro word hne
      cases hk : isKeyword word e.source with
      | false => rfl
      | true => exact absurd ((isKeyword_iff.mp hk).symm.trans (isKeyword_iff.mp hedge)) hne
    rw [ofLine_toText h he, hno "flowchart" (by decide), hno "graph" (by decide), hedge]
    rfl
  · cases hedge

/-- Any other row is laid out again as its line was. -/
theorem layoutKind_flowchartText (h : IsTight line) (hheader : isHeaderEdge line = false)
    (hblock : isBlockEdge line = false) (depth : Nat) :
    (LineKind.ofLine .flowchart (flowchartText line)).rowDepth depth =
      (LineKind.ofLine .flowchart line).rowDepth depth ∧
    (LineKind.ofLine .flowchart (flowchartText line)).depthBehind depth =
      (LineKind.ofLine .flowchart line).depthBehind depth := by
  rw [flowchartText_eq]
  cases he : mendedEdge? line with
  | none => rw [h.trim_eq]; exact ⟨rfl, rfl⟩
  | some e =>
    simp only [isHeaderEdge, isBlockEdge, hasSource, he, List.any_cons, List.any_nil, Bool.or_false] at hheader hblock
    simp only [ofLine_toText h he, hheader, hblock, Bool.false_eq_true, if_false]
    rcases (mendedEdge?_eq_some_iff.mp he).1 with hk | hk
    · rw [hk]
      split
      · exact ⟨rfl, rfl⟩
      · split <;> exact ⟨rfl, rfl⟩
    · rw [hk]
      split
      · exact ⟨rfl, rfl⟩
      · split <;> exact ⟨rfl, rfl⟩

end Keywords

end DiagramText
