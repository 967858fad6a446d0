import DiagramText.Proofs.Layout.Nesting
import DiagramText.Proofs.NewNode

/-!
# New nodes in a canonical flowchart

Where a node goes is told by the nodes, the subgraphs and the header of a flowchart, while the layout tells the
indentation of a line by the depth that the lines above it leave. In a canonical flowchart the two agree
(`fits_nodeAnchor`): a node leaves the depth at which it stands, and a subgraph and the header open a level behind
themselves. The layout does not change the line of a node (`flowchartText_nodeText`), so a canonical flowchart is still
canonical with a new node in it (`prettify_newNode`).
-/

namespace DiagramText

open Text

/-! ## The indentation of a new node -/

/-- Behind the line of an anchor, the layout gives a node the indentation of the anchor. -/
structure Anchor.Fits (a : Anchor) (d : Document) (unit : Text) : Prop where
  kind : LineKind.ofLine .flowchart (d.line a.line) ≠ .blank
  indent : a.indent = (List.replicate (d.depthBefore .flowchart (a.line + 1)) unit).flatten

section Fits

variable {d : Document} {a : Anchor} {text : Text} {first last n w : Nat}

/-- The depth that the lines up to a line leave. -/
theorem depthBehind_take (hn : n ≤ d.lineCount) :
    depthBehind 0 (d.lines.take n) = d.depthBefore .flowchart (n + 1) := by
  induction n with
  | zero => rfl
  | succ n ih =>
    have hlines : d.lines.take (n + 1) = d.lines.take n ++ [d.line (n + 1)] := take_eq (Nat.le_add_left 1 n) hn
    have ih' := ih (Nat.le_of_succ_le hn)
    rw [depthBehind] at ih'
    rw [hlines, depthBehind, List.foldl_append, ih']
    rfl

/-- A node leaves the depth at which it stands. -/
theorem fits_of_lastNode? (h : IsLaidOut (.ofText text) .flowchart (indentUnit w) 0)
    (ha : (Document.ofText text).lastNode? first last = some a) : a.Fits (.ofText text) (indentUnit w) := by
  obtain ⟨-, -, hfirst, -, hkind, hindent⟩ := lastNode?_eq_some ha
  have hblank : LineKind.ofLine .flowchart ((Document.ofText text).line a.line) ≠ .blank := by simp [hkind]
  refine ⟨hblank, ?_⟩
  rw [hindent, indentation_line h hfirst hblank, Document.depthBefore]
  simp only [Dialect.row, flowchartRow, hkind]
  rfl

/-- A subgraph opens a level behind its first line. -/
theorem fits_of_block {b : Block} (h : IsLaidOut (.ofText text) .flowchart (indentUnit w) 0)
    (hb : (Document.ofText text).enclosingSubgraph? n = some b) :
    (⟨b.line, b.indent ++ indentUnit w⟩ : Anchor).Fits (.ofText text) (indentUnit w) := by
  have hopen := opening_mem_openedBefore (enclosingBlock?_eq_some_iff.mp hb).1
  obtain ⟨hindent, hkind⟩ := opening_of_mem_openedBefore hopen
  have hfirst := (lines_of_enclosingSubgraph? hb).1
  have hblank : LineKind.ofLine .flowchart ((Document.ofText text).line b.line) ≠ .blank := by simp [hkind]
  have hbehind : (Document.ofText text).depthBefore .flowchart (b.line + 1) =
      (Document.ofText text).depthBefore .flowchart b.line + 1 := by
    simp only [Document.depthBefore, Dialect.row, flowchartRow, hkind]
    rfl
  refine ⟨hblank, ?_⟩
  show b.indent ++ indentUnit w = _
  rw [hindent, indentation_line h hfirst hblank, rowDepth_first hopen, hbehind, List.replicate_succ',
    List.flatten_concat]

/-- The header starts the diagram one level in. -/
theorem fits_of_header (hheader : LineKind.ofLine .flowchart (d.line 1) = .header) (unit : Text) :
    (⟨1, unit⟩ : Anchor).Fits d unit := by
  refine ⟨by simp [hheader], ?_⟩
  have hbehind : d.depthBefore .flowchart 2 = 1 := by
    simp only [Document.depthBefore, Dialect.row, flowchartRow, hheader]
    rfl
  show unit = (List.replicate (d.depthBefore .flowchart 2) unit).flatten
  rw [hbehind]
  exact (List.append_nil unit).symm

/-- In a canonical flowchart, a node gets the indentation that the layout gives it. -/
theorem fits_nodeAnchor (hc : formatFlowchart (indentUnit w) text = text)
    (hheader : LineKind.ofLine .flowchart ((Document.ofText text).line 1) = .header) (n : Nat) :
    (nodeAnchor (.ofText text) n (indentUnit w)).Fits (.ofText text) (indentUnit w) := by
  have hlaid := isLaidOut_flowchart hc
  cases hb : (Document.ofText text).enclosingSubgraph? n with
  | some b =>
    rw [nodeAnchor_of_block hb]
    cases ha : (Document.ofText text).lastNode? (b.line + 1) (b.lastLine - 1) with
    | some a => exact fits_of_lastNode? hlaid ha
    | none => exact fits_of_block hlaid hb
  | none =>
    rw [nodeAnchor_of_none hb]
    cases ha : (Document.ofText text).lastNode? 2 (Document.ofText text).lineCount with
    | some a => exact fits_of_lastNode? hlaid ha
    | none => exact fits_of_header hheader (indentUnit w)

end Fits

/-! ## The text of a new node -/

section Text

variable {name : Text}

theorem kind_nodeText (h : isIdentifier name = true) :
    LineKind.ofLine .flowchart (nodeText name) = .declaration := by
  rw [← List.nil_append (nodeText name)]
  exact ofLine_nodeText isGap_nil h

/-- The line of a node has no edge whose spaces could be mended. -/
theorem flowchartText_nodeText (h : isIdentifier name = true) : flowchartText (nodeText name) = nodeText name := by
  have htight := isTight_nodeText h
  have hedge : Edge.ofText? (nodeText name) = none :=
    Edge.ofText?_eq_none htight.toIsTail (mark_not_mem_nodeText (isMark_of (by decide)) (by decide) h)
      (mark_not_mem_nodeText (isMark_of (by decide)) (by decide) h)
  rw [flowchartText, kind_nodeText h, htight.trim_eq]
  simp only [normalizeEdge, hedge]

end Text

/-! ## The flowchart with a new node -/

section Canonical

variable {d : Document} {a : Anchor} {unit text line name : Text} {rows rest : List Text} {w : Nat}

/-- A text whose first line is the header of a flowchart has its dialect. -/
theorem detect?_of_first (hlines : squeeze (bodies (lines text)) = squeeze (bodies rows))
    (hfirst : rows.head? = some line) (hn : '\n' ∉ line) (hk : LineKind.ofLine .flowchart line = .header) :
    Dialect.detect? text = some .flowchart := by
  have hfilled : isFilled line = true := isFilled_of_kind hn hk LineKind.noConfusion
  obtain ⟨rest, rfl⟩ := List.head?_eq_some_iff.mp hfirst
  have hentry : ((bodies (lines text)).filterMap id).head? = some (trim line) := by
    rw [← entries_squeeze, hlines, entries_squeeze, entries_bodies, List.filter_cons, hfilled]
    rfl
  exact detect?_of_header hentry (by rwa [ofLine_trim])

/-- A text of canonical lines, the first of them a header, is left as it is. -/
theorem IsCanonical.prettify_eq (h : IsCanonical unit rows) (hfirst : rows.head? = some line)
    (hk : LineKind.ofLine .flowchart line = .header) :
    prettify unit (unlines rows ++ ['\n']) = unlines rows ++ ['\n'] := by
  have hn : '\n' ∉ line := h.newline line (List.mem_of_head? hfirst)
  simp only [prettify, detect?_of_first (squeeze_bodies_unlines h.newline) hfirst hn hk, h.formatFlowchart_eq]

/-- A canonical flowchart whose first line is not blank consists of canonical lines, with an empty one behind them. -/
theorem exists_isCanonical (hc : formatFlowchart (indentUnit w) text = text) (hlines : lines text = line :: rest)
    (hfirst : isFilled line = true) :
    ∃ rows, lines text = line :: rows ++ [[]] ∧ IsCanonical (indentUnit w) (line :: rows) := by
  have htight : ∀ row, some row ∈ flowchartPage 0 (lines text) → IsTight row.text :=
    fun row hr => isTight_of_mem_flowchartPage hr
  have hpage := lines_render_eq (newline_not_mem_indentUnit w) htight
  rw [← formatFlowchart, hc] at hpage
  have hrows := isCanonical_rows hc
  cases he : (flowchartPage 0 (lines text)).rows (indentUnit w) with
  | nil =>
    rw [he, if_pos (List.map_eq_nil_iff.mp he)] at hpage
    rw [(List.cons.inj (hlines.symm.trans hpage)).1] at hfirst
    cases hfirst
  | cons first rows =>
    have hne : squeeze (flowchartPage 0 (lines text)) ≠ [] := by
      intro hnil
      rw [Page.rows, hnil] at he
      cases he
    rw [if_neg hne, he] at hpage
    rw [he] at hrows
    obtain rfl : line = first := (List.cons.inj (hlines.symm.trans hpage)).1
    exact ⟨rows, hpage, hrows⟩

/-- A node behind an anchor that fits leaves the lines canonical. -/
theorem Anchor.Fits.isCanonical_insert (hfits : a.Fits d (indentUnit w)) (hrows : IsCanonical (indentUnit w) rows)
    (hlines : d.lines = rows ++ [[]]) (hfirst : 1 ≤ a.line) (hname : isIdentifier name = true) :
    a.line ≤ rows.length ∧
      IsCanonical (indentUnit w) (rows.take a.line ++ (a.indent ++ nodeText name) :: rows.drop a.line) := by
  have hlast : a.line ≤ rows.length := by
    by_contra hlt
    have hdrop : d.lines.drop rows.length = [[]] := by rw [hlines, List.drop_left]
    have hnil : d.line a.line = [] := line_eq_of_drop hdrop (by simp) (Nat.lt_of_not_le hlt)
    exact hfits.kind (by rw [hnil, ofLine_nil])
  have hcount : a.line ≤ d.lineCount := by
    rw [Document.lineCount, hlines, List.length_append]
    exact Nat.le_trans hlast (Nat.le_add_right _ _)
  have htake : d.lines.take a.line = rows.take a.line := by rw [hlines, List.take_append_of_le_length hlast]
  have hget : (rows.take a.line).getLast? = some (d.line a.line) := by
    rw [← htake, take_eq hfirst hcount, List.getLast?_concat]
  have hfilled : isFilled (d.line a.line) = true :=
    isFilled_of_kind (hrows.newline _ (List.mem_of_mem_take (List.mem_of_getLast? hget))) rfl hfits.kind
  have hline : a.indent ++ nodeText name =
      Row.render (indentUnit w) ⟨depthBehind 0 (rows.take a.line), nodeText name⟩ := by
    rw [Row.render, ← htake, depthBehind_take hcount, hfits.indent]
  rw [hline]
  refine ⟨hlast, IsCanonical.insert ?_ (isGap_indentUnit w) (newline_not_mem_indentUnit w) hget hfilled
    (isTight_nodeText hname) (flowchartText_nodeText hname) (kind_nodeText hname)⟩
  rwa [List.take_append_drop]

/-- A line inserted before the empty last line of a document. -/
theorem Inserts.applyTo?_of_newline {plan : EditPlan} {n : Nat} (h : Inserts plan d n [line])
    (hlines : d.lines = rows ++ [[]]) (hfirst : 1 ≤ n) (hlast : n ≤ rows.length) :
    plan.applyTo? d = some (unlines (rows.take n ++ line :: rows.drop n) ++ ['\n']) := by
  have hcount : n < d.lineCount := by
    rw [Document.lineCount, hlines, List.length_append]
    exact Nat.lt_succ_of_le hlast
  rw [h.applyTo?_eq hfirst (Nat.le_of_lt hcount), if_neg (Nat.ne_of_lt hcount), hlines,
    List.take_append_of_le_length hlast, List.drop_append_of_le_length hlast, ← unlines_concat_nil (by simp)]
  simp

/-- **A new node leaves a canonical flowchart canonical.** Whatever the line of the cursor and the selection are, the
layout does not change the text that the plan of a new node gives, if the unit of the editor is that of the layout. -/
theorem prettify_newNode (hheader : LineKind.ofLine .flowchart ((Document.ofText text).line 1) = .header)
    (hc : prettify (indentUnit w) text = text) (n : Nat) (selection : Text) :
    ∃ text', (newElement (.ofText text) n selection ⟨.flowchart, indentUnit w⟩).applyTo? (.ofText text) = some text' ∧
      prettify (indentUnit w) text' = text' := by
  obtain ⟨first, rest, hlines⟩ := List.exists_cons_of_ne_nil (lines_ne_nil text)
  have hline : (Document.ofText text).line 1 = first := by
    show (lines text).getD 0 [] = first
    rw [hlines]
    rfl
  have hk : LineKind.ofLine .flowchart first = .header := by rw [← hline, hheader]
  have hn : '\n' ∉ first := newline_not_mem_lines (by rw [hlines]; exact List.mem_cons_self)
  have hdetect : Dialect.detect? text = some .flowchart :=
    detect?_of_first rfl (List.head?_eq_some_iff.mpr ⟨rest, hlines⟩) hn hk
  have hformat : formatFlowchart (indentUnit w) text = text := by
    simpa only [prettify, hdetect] using hc
  obtain ⟨rows, hall, hrows⟩ := exists_isCanonical hformat hlines (isFilled_of_kind hn hk LineKind.noConfusion)
  obtain ⟨habove, -, -⟩ := standsIn_nodeAnchor (.ofText text) n (indentUnit w)
  obtain ⟨hbelow, hcanonical⟩ := (fits_nodeAnchor hformat hheader n).isCanonical_insert hrows hall habove
    (isIdentifier_elementName (.ofText text) selection .flowchart)
  have hins : Inserts (newElement (.ofText text) n selection ⟨.flowchart, indentUnit w⟩) (.ofText text)
      (nodeAnchor (.ofText text) n (indentUnit w)).line
      [(nodeAnchor (.ofText text) n (indentUnit w)).indent ++
        nodeText (elementName (.ofText text) selection .flowchart)] :=
    newElement_inserts (.ofText text) n selection ⟨.flowchart, indentUnit w⟩
  refine ⟨_, hins.applyTo?_of_newline hall habove hbelow, hcanonical.prettify_eq ?_ hk⟩
  -- The node goes below the header, which stays the first line.
  obtain ⟨k, hk'⟩ := Nat.exists_eq_add_of_le' habove
  rw [hk']
  rfl

theorem prettify_new_node_in_subgraph :
    (newElement (.ofText "flowchart LR\n  subgraph A\n    a[X]\n  end\n".toList) 3 "b".toList
      ⟨.flowchart, indentUnit 2⟩).applyTo? (.ofText "flowchart LR\n  subgraph A\n    a[X]\n  end\n".toList) =
        some "flowchart LR\n  subgraph A\n    a[X]\n    b(B)\n  end\n".toList ∧
    prettify (indentUnit 2) "flowchart LR\n  subgraph A\n    a[X]\n    b(B)\n  end\n".toList =
      "flowchart LR\n  subgraph A\n    a[X]\n    b(B)\n  end\n".toList := by
  have hc : prettify (indentUnit 2) "flowchart LR\n  subgraph A\n    a[X]\n  end\n".toList =
      "flowchart LR\n  subgraph A\n    a[X]\n  end\n".toList := by decide +kernel
  obtain ⟨text, happly, hcanonical⟩ := prettify_newNode (by decide +kernel) hc 3 "b".toList
  have hplan : (newElement (.ofText "flowchart LR\n  subgraph A\n    a[X]\n  end\n".toList) 3 "b".toList
      ⟨.flowchart, indentUnit 2⟩).applyTo? (.ofText "flowchart LR\n  subgraph A\n    a[X]\n  end\n".toList) =
        some "flowchart LR\n  subgraph A\n    a[X]\n    b(B)\n  end\n".toList := by decide +kernel
  rw [hplan] at happly
  cases happly
  exact ⟨hplan, hcanonical⟩

end Canonical

end DiagramText
