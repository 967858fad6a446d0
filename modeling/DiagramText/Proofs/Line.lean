import DiagramText.Line
import DiagramText.Proofs.Text.Keyword

/-!
# Kinds of lines

- The kind of a line depends on its trimmed text alone (`ofLine_trim`), and a line is blank where nothing is left of it
  (`ofLine_eq_blank_iff`);
- `ofLine_flowchart` and `ofLine_sequence` write out in which order the rules of a dialect are asked.
-/

namespace DiagramText

open Text

variable {dialect : Dialect} {line : Text}

/-- What the first of some rules that recognizes a line makes of it. -/
def LineKind.byRules (rules : List LineRule) (body : Text) : LineKind :=
  (rules.findSome? (· body)).getD .statement

theorem ofLine_eq_byRules (dialect : Dialect) (line : Text) :
    LineKind.ofLine dialect line = LineKind.byRules (LineRule.ofDialect dialect) (trim line) := rfl

theorem ofLine_trim (dialect : Dialect) (line : Text) :
    LineKind.ofLine dialect (trim line) = LineKind.ofLine dialect line := by
  rw [ofLine_eq_byRules, ofLine_eq_byRules, trim_trim]

section Rules

variable (rules : List LineRule) (body : Text)

/-- A rule that recognizes a line by a test counts before those behind it. -/
theorem byRules_test (p : Text → Bool) (kind : LineKind) :
    LineKind.byRules (LineRule.test p kind :: rules) body = if p body then kind else LineKind.byRules rules body := by
  rw [LineKind.byRules, List.findSome?_cons, LineRule.test]
  cases p body <;> rfl

theorem byRules_block : LineKind.byRules (LineRule.sequenceBlock :: rules) body =
    match BlockKind.ofSequence.find? fun kind => startsWithKeyword kind.keyword body with
    | some kind => .blockStart kind
    | none => LineKind.byRules rules body := by
  rw [LineKind.byRules, List.findSome?_cons, LineRule.sequenceBlock]
  cases BlockKind.ofSequence.find? fun kind => startsWithKeyword kind.keyword body <;> rfl

end Rules

/-! ## The order of the rules -/

section Order

/-- Whether a line without blanks around it is the header of a flowchart. -/
def isFlowchartHeader (body : Text) : Bool :=
  startsWithKeyword "flowchart" body || startsWithKeyword "graph" body || startsWithLower "flowchart-" body

/-- Whether a line without blanks around it declares a participant. -/
def isParticipant (body : Text) : Bool :=
  startsWithLower "participant " body || startsWithLower "actor " body

/-- Whether a line without blanks around it sets something in a sequence diagram. -/
def isSequenceDirective (body : Text) : Bool :=
  ["autonumber", "activate", "deactivate", "title"].any (startsWithKeyword · body)

/-- The kind of a line of a flowchart, which has no blanks around it and is not empty. -/
theorem ofLine_flowchart (h : IsTight line) : LineKind.ofLine .flowchart line =
    if (after? "%%".toList line).isSome then .comment
    else if isFlowchartHeader line then .header
    else if isKeyword "end" line then .blockEnd
    else if startsWithKeyword "subgraph" line then .blockStart .subgraph
    else if startsWithKeyword "direction" line then .directive
    else if LineRule.isNodeDeclaration line then .declaration
    else .statement := by
  have hne : line.isEmpty = false := List.isEmpty_eq_false_iff.mpr h.ne_nil
  rw [ofLine_eq_byRules, h.trim_eq, LineRule.ofDialect, LineRule.blank, byRules_test, hne, if_neg Bool.false_ne_true,
    LineRule.comment, byRules_test, LineRule.flowchartHeader, byRules_test, LineRule.blockEnd, byRules_test,
    LineRule.subgraph, byRules_test, LineRule.direction, byRules_test, LineRule.node, byRules_test]
  rfl

/-- The kind of a line of a sequence diagram, which has no blanks around it and is not empty. -/
theorem ofLine_sequence (h : IsTight line) : LineKind.ofLine .sequence line =
    if (after? "%%".toList line).isSome then .comment
    else if isKeyword "sequencediagram" line then .header
    else if isParticipant line then .declaration
    else if isKeyword "end" line then .blockEnd
    else if startsWithKeyword "else" line then .blockElse
    else match BlockKind.ofSequence.find? fun kind => startsWithKeyword kind.keyword line with
    | some kind => .blockStart kind
    | none =>
      if isSequenceDirective line then .directive
      else if startsWithKeyword "note" line && (Message.ofText? line).isNone then .note
      else .statement := by
  have hne : line.isEmpty = false := List.isEmpty_eq_false_iff.mpr h.ne_nil
  rw [ofLine_eq_byRules, h.trim_eq, LineRule.ofDialect, LineRule.blank, byRules_test, hne, if_neg Bool.false_ne_true,
    LineRule.comment, byRules_test, LineRule.sequenceHeader, byRules_test, LineRule.participant, byRules_test,
    LineRule.blockEnd, byRules_test, LineRule.blockElse, byRules_test, byRules_block, LineRule.sequenceDirective,
    byRules_test, LineRule.note, byRules_test]
  rfl

/-- A line is blank where nothing is left of it without the blanks around it. -/
theorem ofLine_eq_blank_iff (hn : '\n' ∉ line) : LineKind.ofLine dialect line = .blank ↔ isFilled line = false := by
  rw [← ofLine_trim, isFilled_eq_false_iff, ← trim_eq_nil_iff]
  constructor
  · intro hb
    by_cases ht : trim line = []
    · exact ht
    exfalso
    have htight := isTight_trim hn ht
    cases dialect with
    | flowchart =>
      rw [ofLine_flowchart htight] at hb
      repeat' split at hb
      all_goals cases hb
    | sequence =>
      rw [ofLine_sequence htight] at hb
      repeat' split at hb
      all_goals cases hb
  · intro ht
    rw [ht]
    cases dialect <;> rfl

theorem isFilled_of_kind {kind : LineKind} (hn : '\n' ∉ line) (hk : LineKind.ofLine dialect line = kind)
    (hkind : kind ≠ .blank) : isFilled line = true := by
  rwa [← hk, Ne, ofLine_eq_blank_iff hn, Bool.not_eq_false] at hkind

/-- The only blocks of a flowchart are its subgraphs. -/
theorem kind_eq_subgraph {kind : BlockKind} (h : LineKind.ofLine .flowchart line = .blockStart kind) :
    kind = .subgraph := by
  rw [ofLine_eq_byRules, LineRule.ofDialect, LineRule.blank, byRules_test, LineRule.comment, byRules_test,
    LineRule.flowchartHeader, byRules_test, LineRule.blockEnd, byRules_test, LineRule.subgraph, byRules_test,
    LineRule.direction, byRules_test, LineRule.node, byRules_test] at h
  repeat' split at h
  all_goals cases h
  rfl

/-- A line that starts like one that is no comment, and goes on with another character than `%`, is none either. -/
theorem comment_append {first rest : Text} {c : Char} (hne : first ≠ [])
    (hno : (after? "%%".toList (first ++ rest)).isSome = false) (hc : c ≠ '%') (behind : Text) :
    (after? "%%".toList (first ++ c :: behind)).isSome = false := by
  rw [Option.isSome_eq_false_iff, Option.isNone_iff_eq_none] at hno ⊢
  obtain ⟨a, first, rfl⟩ := List.exists_cons_of_ne_nil hne
  by_cases ha : a = '%'
  · cases first with
    | nil => simp [after?, ha, hc]
    | cons b first =>
      by_cases hb : b = '%'
      · simp [after?, ha, hb] at hno
      · simp [after?, ha, hb]
  · simp [after?, ha]

end Order

end DiagramText
