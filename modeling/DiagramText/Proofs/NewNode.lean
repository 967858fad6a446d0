import DiagramText.Proofs.Block.Insertion
import DiagramText.Proofs.Layout.Flowchart
import DiagramText.Proofs.Line.Shaped
import DiagramText.Proofs.Session

/-!
# New nodes

A new node of a flowchart stands on the level of the cursor: the line that is inserted declares a node
(`ofLine_nodeText`), and the innermost subgraph around it is the one around the cursor, which ends one line further down
(`newNode_keeps_subgraph`). The node goes where just the subgraph around the cursor is open, and its line opens and
closes none.
-/

namespace DiagramText

open Text

/-! ## The line of a node -/

section Kind

variable {name indent : Text}

theorem mark_not_mem_nodeText {m : Char} (hm : IsMark m) (hparens : m ≠ '(' ∧ m ≠ ')')
    (h : isIdentifier name = true) : m ∉ nodeText name := by
  have hname : m ∉ name := not_mem_of_isIdentifier h hm.part
  have htitle := not_mem_titleCase hm hname
  unfold nodeText
  rw [List.mem_append, List.mem_append, List.mem_cons, List.mem_singleton]
  rintro ((h | h | h) | h)
  · exact hname h
  · exact hparens.1 h
  · exact htitle h
  · exact hparens.2 h

theorem isTight_nodeText (h : isIdentifier name = true) : IsTight (nodeText name) := by
  refine ⟨⟨mark_not_mem_nodeText isMark_newline (by decide) h, ?_⟩, ?_⟩
  · intro c hc
    rw [nodeText, List.getLast?_concat] at hc
    cases hc
    decide
  · obtain ⟨c, rest, rfl, hc, -⟩ := isIdentifier_iff.mp h
    exact ⟨c, _, rfl, isBlank_of_isIdentifierPart (isIdentifierPart_of_start hc)⟩

/-- A node is declared by its line, whatever its name is. -/
theorem ofLine_nodeText (hgap : IsGap indent) (h : isIdentifier name = true) :
    LineKind.ofLine .flowchart (indent ++ nodeText name) = .declaration := by
  have htight := isTight_nodeText h
  have hmark : ∀ m, IsMark m → m ≠ '(' ∧ m ≠ ')' → m ∉ nodeText name := fun m hm hp => mark_not_mem_nodeText hm hp h
  have hnone : LineRule.hasArrow (nodeText name) = false :=
    hasArrow_eq_false (hmark '-' (isMark_of (by decide)) (by decide)) (hmark '=' (isMark_of (by decide)) (by decide))
  have htext : nodeText name = name ++ '(' :: (titleCase name ++ [')']) := by simp [nodeText]
  rw [← ofLine_trim, htight.trim_gap_append hgap]
  rw [htext] at htight hnone ⊢
  rw [ofLine_shaped h (by decide) htight, hnone]
  rfl

end Kind

/-! ## The document with a new line -/

section Inserted

variable {d : Document} {dialect : Dialect} {a n : Nat} {line : Text} {ending : List Text}

theorem indentation_withoutReturn (hf : isFilled line = true) :
    indentation (withoutReturn line) = indentation line := by
  unfold withoutReturn
  split
  · next hlast =>
    have hline := indentation_append_trimStart line
    rcases trimStart_eq_nil_or_cons line with hnil | ⟨c, rest, hcons, hc⟩
    · rw [isFilled_iff, trim, hnil] at hf
      exact absurd rfl hf
    · rw [hcons] at hline
      cases rest with
      | nil =>
        -- The last character is no blank, hence no carriage return.
        rw [← hline, List.getLast?_concat] at hlast
        rw [Option.some.inj hlast] at hc
        cases hc
      | cons e rest =>
        have hdrop : line.dropLast = indentation line ++ c :: (e :: rest).dropLast := by
          conv => lhs; rw [← hline, List.dropLast_append_of_ne_nil (List.cons_ne_nil c _)]
          rfl
        rw [hdrop, indentation_gap_append (isGap_indentation line) hc]
  · rfl

/-- A carriage return at the end of a line does not matter to blocks. -/
theorem sameLine_withoutReturn (dialect : Dialect) (line : Text) : SameLine dialect line (withoutReturn line) := by
  have hkind : LineKind.ofLine dialect (withoutReturn line) = LineKind.ofLine dialect line := by
    rw [← ofLine_trim, trim_withoutReturn, ofLine_trim]
  refine ⟨hkind, fun kind hk => indentation_withoutReturn ?_⟩
  rw [isFilled_iff]
  intro hnil
  rw [← ofLine_trim, hnil, ofLine_nil] at hk
  cases hk

/-- The lines of a document with a new line below line `a`. -/
theorem line_insert (ha : a ≤ d.lineCount) (hending : ∀ l ∈ ending, l = []) (n : Nat) :
    (Document.mk (d.lines.take a ++ [line] ++ d.lines.drop a ++ ending)).line n =
      if n ≤ a then d.line n else if n = a + 1 then line else d.line (n - 1) := by
  have hlen : (d.lines.take a).length = a := List.length_take_of_le ha
  cases n with
  | zero => rfl
  | succ n =>
    rw [Document.line, List.append_assoc, List.append_assoc, List.singleton_append]
    rcases Nat.lt_trichotomy n a with hlt | rfl | hlt
    · rw [if_pos (Nat.succ_le_of_lt hlt), List.getD_append _ _ _ _ (by omega), Document.line,
        List.getD_eq_getElem?_getD, List.getD_eq_getElem?_getD, List.getElem?_take_of_lt hlt]
    · rw [if_neg (Nat.not_succ_le_self n), if_pos rfl, List.getD_append_right _ _ _ _ (by omega), hlen, Nat.sub_self]
      rfl
    · obtain ⟨k, rfl⟩ := Nat.exists_eq_add_of_lt hlt
      have hk : a + k + 1 - a = k + 1 := by omega
      rw [if_neg (by omega), if_neg (by omega), List.getD_append_right _ _ _ _ (by omega), hlen, hk,
        List.getD_cons_succ, Nat.add_sub_cancel]
      by_cases hin : k < (d.lines.drop a).length
      · rw [List.getD_append _ _ _ _ hin, Document.line, List.getD_eq_getElem?_getD, List.getD_eq_getElem?_getD,
          List.getElem?_drop]
      · have hout : d.lineCount < a + k + 1 := by
          rw [List.length_drop] at hin
          unfold Document.lineCount
          omega
        rw [List.getD_append_right _ _ _ _ (Nat.le_of_not_lt hin), line_eq_nil hout, List.getD_eq_getElem?_getD]
        cases he : ending[k - (d.lines.drop a).length]? with
        | none => rfl
        | some l => exact hending l (List.mem_of_getElem? he)

/-- A document with a new line is read back, but for the carriage returns at the ends of its lines. -/
theorem line_ofText_insert (hd : ∀ l ∈ d.lines, '\n' ∉ l) (ha : a ≤ d.lineCount) (hending : ∀ l ∈ ending, l = [])
    (hline : '\n' ∉ line) (n : Nat) :
    (Document.ofText (unlines (d.lines.take a ++ [line] ++ d.lines.drop a ++ ending))).line n =
      withoutReturn (if n ≤ a then d.line n else if n = a + 1 then line else d.line (n - 1)) := by
  have hlines : ∀ l ∈ d.lines.take a ++ [line] ++ d.lines.drop a ++ ending, '\n' ∉ l := by
    intro l hl
    simp only [List.mem_append, List.mem_singleton] at hl
    rcases hl with ((hl | rfl) | hl) | hl
    · exact hd l (List.mem_of_mem_take hl)
    · exact hline
    · exact hd l (List.mem_of_mem_drop hl)
    · rw [hending l hl]
      exact List.not_mem_nil
  rw [← line_insert ha hending n, Document.ofText, lines_unlines (by simp) hlines]
  cases n with
  | zero => rfl
  | succ n => exact List.getD_map _ [] withoutReturn

/-- A new line that neither opens nor closes a block is read back as such. -/
theorem insertsNeutral_ofText (hd : ∀ l ∈ d.lines, '\n' ∉ l) (ha : a ≤ d.lineCount)
    (hending : ∀ l ∈ ending, l = []) (hline : '\n' ∉ line) (hend : LineKind.ofLine dialect line ≠ .blockEnd)
    (hstart : ∀ kind, LineKind.ofLine dialect line ≠ .blockStart kind) :
    InsertsNeutral d (.ofText (unlines (d.lines.take a ++ [line] ++ d.lines.drop a ++ ending))) dialect a := by
  have hread := line_ofText_insert hd ha hending hline
  have hself := hread (a + 1)
  rw [if_neg (Nat.not_succ_le_self a), if_pos rfl] at hself
  have hkind := (sameLine_withoutReturn dialect line).kind
  refine ⟨fun n hn => ?_, by rwa [hself, hkind], by rwa [hself, hkind], fun n hn => ?_⟩
  · rw [hread, if_pos hn]
    exact sameLine_withoutReturn dialect (d.line n)
  · rw [hread, if_neg (by omega), if_neg (by omega), Nat.add_sub_cancel]
    exact sameLine_withoutReturn dialect (d.line n)

end Inserted

/-! ## The first line of a flowchart -/

section FirstLine

variable {d : Document} {line : Text}

/-- A line that starts like a header neither opens nor closes a block. -/
theorem neutral_of_headerWord (h : IsTight line) (hword : ((after? "flowchart".toList (asciiLower line)).isSome ||
      (after? "graph".toList (asciiLower line)).isSome) = true) :
    LineKind.ofLine .flowchart line ≠ .blockEnd ∧ ∀ kind, LineKind.ofLine .flowchart line ≠ .blockStart kind := by
  obtain ⟨c, rest, rfl, hc⟩ := h.first
  have hletter : c.toLower = 'f' ∨ c.toLower = 'g' := by
    rw [Bool.or_eq_true, Option.isSome_iff_exists, Option.isSome_iff_exists] at hword
    rcases hword with ⟨behind, hb⟩ | ⟨behind, hb⟩
    · exact Or.inl (List.cons.inj (after?_eq_some_iff.mp hb)).1
    · exact Or.inr (List.cons.inj (after?_eq_some_iff.mp hb)).1
  have hlower : lowerLetter c ≠ 'e' ∧ lowerLetter c ≠ 's' := by
    unfold lowerLetter
    split
    · decide
    · rcases hletter with hc | hc <;> rw [hc] <;> decide
  have hend : isKeyword "end" (c :: rest) = false := by
    rw [Bool.eq_false_iff, Ne, isKeyword_iff]
    exact fun he => hlower.1 (List.cons.inj he).1
  have hsubgraph : startsWithKeyword "subgraph" (c :: rest) = false := by
    rw [Bool.eq_false_iff, Ne, startsWithKeyword_iff (by decide), firstWord, List.takeWhile_cons, hc]
    exact fun hs => hlower.2 (List.cons.inj hs).1
  rw [ofLine_flowchart h, hend, hsubgraph, if_neg Bool.false_ne_true, if_neg Bool.false_ne_true]
  repeat' split
  all_goals simp

/-- The first line of a flowchart opens no block. -/
theorem openedBefore_two (hd : ∀ l ∈ d.lines, '\n' ∉ l) (h : Dialect.detect? d.value = some .flowchart) :
    1 ≤ d.lineCount ∧ d.openedBefore .flowchart 2 = [] := by
  obtain ⟨lines⟩ := d
  cases lines with
  | nil =>
    have hnone : Dialect.detect? (Document.mk []).value = none := by decide
    rw [hnone] at h
    cases h
  | cons first rest =>
    refine ⟨Nat.le_add_left 1 _, ?_⟩
    have hneutral : LineKind.ofLine .flowchart first ≠ .blockEnd ∧
        ∀ kind, LineKind.ofLine .flowchart first ≠ .blockStart kind := by
      obtain ⟨line, hline, hword⟩ := (detect?_eq_some_flowchart_iff _).mp h
      rw [bodies_lines_value hd (List.cons_ne_nil first rest), bodies, List.map_cons] at hline
      have hn : '\n' ∉ first := hd first List.mem_cons_self
      cases hf : isFilled first with
      | false =>
        rw [(ofLine_eq_blank_iff hn).mpr hf]
        simp
      | true =>
        rw [hf] at hline
        cases hline
        rw [← ofLine_trim]
        exact neutral_of_headerWord (isTight_trim hn (isFilled_iff.mp hf)) hword
    rw [openedBefore_succ_of_neutral hneutral.1 hneutral.2, openedBefore_one]

end FirstLine

/-! ## The subgraph around a new node -/

section Subgraph

variable {d d' : Document} {n : Nat} {unit : Text}

/-- Below its anchor, a new node has the subgraph around the cursor for the innermost one around it. -/
theorem enclosingSubgraph?_below_nodeAnchor (htop : d.openedBefore .flowchart 2 = []) (hlines : 1 ≤ d.lineCount)
    (h : InsertsNeutral d d' .flowchart (nodeAnchor d n unit).line) :
    d'.enclosingSubgraph? ((nodeAnchor d n unit).line + 1) =
      (d.enclosingSubgraph? n).map fun b => { b with lastLine := b.lastLine + 1 } := by
  cases hb : d.enclosingSubgraph? n with
  | none => exact enclosingBlock?_insert_of_nil h (openedBefore_nodeAnchor_of_none unit hb htop hlines)
  | some b =>
    obtain ⟨hfirst, hlast, hopen⟩ := openedBefore_nodeAnchor_of_block unit hb
    exact enclosingBlock?_insert h (enclosingBlock?_eq_some_iff.mp hb).1 hfirst hlast (by rw [hopen]; rfl)

/-- **A new node stays in the subgraph of the cursor.** In the document after the plan, which has one line more, this
line declares a node. The innermost subgraph around it is the one that was around the cursor, with its last line one
further down, and there is none where there was none around the cursor. -/
theorem newNode_keeps_subgraph (d : Document) (n : Nat) (selection unit : Text) {plan : EditPlan}
    (hplan : newElement d n selection ⟨.flowchart, unit⟩ = plan) (hd : ∀ line ∈ d.lines, '\n' ∉ line)
    (hflowchart : Dialect.detect? d.value = some .flowchart) (hgap : IsGap unit) (hunit : '\n' ∉ unit) :
    ∃ line text, plan.applyTo? d = some text ∧
      text = unlines (d.lines.take plan.range.first.line ++ [line] ++ d.lines.drop plan.range.first.line ++
        if plan.range.first.line = d.lineCount then [[]] else []) ∧
      LineKind.ofLine .flowchart ((Document.ofText text).line (plan.range.first.line + 1)) = .declaration ∧
      (Document.ofText text).enclosingSubgraph? (plan.range.first.line + 1) =
        (d.enclosingSubgraph? n).map fun b => { b with lastLine := b.lastLine + 1 } := by
  subst hplan
  obtain ⟨hlines, htop⟩ := openedBefore_two hd hflowchart
  have hins : Inserts (newElement d n selection ⟨.flowchart, unit⟩) d (nodeAnchor d n unit).line
      [(nodeAnchor d n unit).indent ++ nodeText (elementName d selection .flowchart)] :=
    newElement_inserts d n selection ⟨.flowchart, unit⟩
  have hnewline : '\n' ∉ (nodeAnchor d n unit).indent ++ nodeText (elementName d selection .flowchart) :=
    freeOfNewlines_newElement d n selection ⟨.flowchart, unit⟩ hd hunit _ List.mem_cons_self
  have hkind : LineKind.ofLine .flowchart
      ((nodeAnchor d n unit).indent ++ nodeText (elementName d selection .flowchart)) = .declaration :=
    ofLine_nodeText ((standsIn_nodeAnchor d n unit).forall_mem (fun k => isGap_indentation (d.line k)) hgap)
      (isIdentifier_elementName d selection .flowchart)
  obtain ⟨hfirst, hlast, -⟩ := standsIn_nodeAnchor d n unit
  rw [Nat.max_eq_right hlines] at hlast
  have hending : ∀ l ∈ (if (nodeAnchor d n unit).line = d.lineCount then [[]] else [] : List Text), l = [] := by
    intro l hl
    split at hl
    · exact List.mem_singleton.mp hl
    · cases hl
  refine ⟨_, _, hins.applyTo?_eq hfirst hlast, rfl, ?_, ?_⟩
  · have hread := line_ofText_insert hd hlast hending hnewline ((nodeAnchor d n unit).line + 1)
    rw [if_neg (Nat.not_succ_le_self _), if_pos rfl] at hread
    exact (congrArg (LineKind.ofLine .flowchart) hread).trans
      ((sameLine_withoutReturn .flowchart _).kind.trans hkind)
  · exact enclosingSubgraph?_below_nodeAnchor htop hlines (insertsNeutral_ofText hd hlast hending hnewline
      (by simp [hkind]) fun kind => by simp [hkind])

theorem new_node_in_subgraph : ∃ text,
    (newElement (.ofText "flowchart LR\nsubgraph A\n  a[X]\nend".toList) 3 "end".toList
      ⟨.flowchart, indentUnit 2⟩).applyTo? (.ofText "flowchart LR\nsubgraph A\n  a[X]\nend".toList) = some text ∧
    (Document.ofText text).enclosingSubgraph? 4 = some ⟨⟨2, [], .subgraph⟩, 5⟩ := by
  obtain ⟨_, text, happly, -, -, hsubgraph⟩ := newNode_keeps_subgraph
    (.ofText "flowchart LR\nsubgraph A\n  a[X]\nend".toList) 3 "end".toList (indentUnit 2) rfl
    (fun _ hl => newline_not_mem_lines hl) (by decide +kernel) (isGap_indentUnit 2) (newline_not_mem_indentUnit 2)
  have hanchor : (newElement (.ofText "flowchart LR\nsubgraph A\n  a[X]\nend".toList) 3 "end".toList
      ⟨.flowchart, indentUnit 2⟩).range.first.line = 3 := by decide +kernel
  have hblock : (Document.ofText "flowchart LR\nsubgraph A\n  a[X]\nend".toList).enclosingSubgraph? 3 =
      some ⟨⟨2, [], .subgraph⟩, 4⟩ := by decide +kernel
  rw [hanchor, hblock] at hsubgraph
  exact ⟨text, happly, hsubgraph⟩

end Subgraph

end DiagramText
