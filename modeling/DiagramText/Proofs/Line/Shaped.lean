import DiagramText.Proofs.Line
import DiagramText.Proofs.Shape
import DiagramText.Proofs.Text.Mark
import DiagramText.Proofs.Text.Word

/-!
# Lines that start with a shaped node

A line of a flowchart that starts with an identifier and an opening bracket is no comment, no header, and has no keyword:
its first word holds the bracket. So it is a statement where one of the arrows that tell edges apart occurs in it, and
declares a node where none does (`ofLine_shaped`).
-/

namespace DiagramText

open Text

variable {name rest line word : Text} {c : Char}

/-! ## Arrows in a line -/

section Arrows

theorem hasArrow_iff : LineRule.hasArrow line = true ↔ ∃ token ∈ LineRule.arrowTokens, token <:+: line := by
  rw [LineRule.hasArrow, List.any_eq_true]
  exact exists_congr fun token => and_congr_right fun _ => contains_iff

/-- Every arrow that is looked for holds a dash or an equals sign. -/
theorem hasArrow_eq_false (hdash : '-' ∉ line) (hequals : '=' ∉ line) : LineRule.hasArrow line = false := by
  have htokens : ∀ token ∈ LineRule.arrowTokens, '-' ∈ token ∨ '=' ∈ token := by decide
  rw [Bool.eq_false_iff, Ne, hasArrow_iff]
  rintro ⟨token, ht, hin⟩
  exact (htokens token ht).elim (fun hc => hdash (hin.subset hc)) fun hc => hequals (hin.subset hc)

/-- An arrow is on one side of a blank. -/
theorem hasArrow_append_cons (hc : isBlank c = true) : LineRule.hasArrow (line ++ c :: rest) = true ↔
    LineRule.hasArrow line = true ∨ LineRule.hasArrow rest = true := by
  have htokens : ∀ token ∈ LineRule.arrowTokens, token.any isBlank = false := by decide
  have hno : ∀ token ∈ LineRule.arrowTokens, c ∉ token :=
    fun token ht hm => List.any_eq_false.mp (htokens token ht) c hm hc
  simp only [hasArrow_iff, ← exists_or, ← and_or_left]
  exact exists_congr fun token => and_congr_right fun ht => infix_append_cons_iff (hno token ht)

end Arrows

/-! ## The kind of the line -/

section Shaped

variable (h : isIdentifier name = true) (ho : isOpener c = true)

theorem lowerLetter_of_isOpener (ho : isOpener c = true) : lowerLetter c = c := by
  simp only [isOpener, Bool.or_eq_true, beq_iff_eq] at ho
  rcases ho with (rfl | rfl) | rfl <;> decide

include h ho in
/-- The first word of the line holds the bracket, which no keyword does. -/
theorem startsWithKeyword_shaped {keyword : String} (hw : keyword.toList.any isBlank = false)
    (hno : keyword.toList.any isOpener = false) : startsWithKeyword keyword (name ++ c :: rest) = false := by
  have hread : ∀ d ∈ name ++ [c], (!isBlank d) = true := by
    intro d hd
    rcases List.mem_append.mp hd with hd | hd
    · rw [isBlank_of_isIdentifierPart (isIdentifierPart_of_mem h hd)]
      rfl
    · rw [List.mem_singleton.mp hd, isBlank_of_isOpener ho]
      rfl
  have hfirst : c ∈ firstWord (name ++ c :: rest) := by
    rw [List.append_cons, firstWord, List.takeWhile_append_of_pos hread]
    simp
  rw [Bool.eq_false_iff, Ne, startsWithKeyword_iff hw]
  intro he
  have hmem : c ∈ keyword.toList := he ▸ List.mem_map.mpr ⟨c, hfirst, lowerLetter_of_isOpener ho⟩
  rw [List.any_eq_false] at hno
  exact hno c hmem ho

include h ho in
/-- A word with a mark in it, but no bracket, does not start the line: what is in front of the bracket has no marks. -/
theorem startsWithLower_shaped {m : Char} {word : String} (hm : IsMark m) (hword : m ∈ word.toList)
    (hno : word.toList.any isOpener = false) : startsWithLower word (name ++ c :: rest) = false := by
  rw [Bool.eq_false_iff, Ne, startsWithLower_iff]
  rintro ⟨read, behind, he, hr⟩
  have hmem : m ∈ read := by
    rw [← hr] at hword
    obtain ⟨d, hd, hlower⟩ := List.mem_map.mp hword
    rwa [eq_of_lowerLetter_eq hm hlower] at hd
  have hbracket : c ∉ read := by
    intro hc
    rw [List.any_eq_false] at hno
    exact hno c (hr ▸ List.mem_map.mpr ⟨c, hc, lowerLetter_of_isOpener ho⟩) ho
  obtain ⟨q, rfl, -⟩ := exists_append_of_not_mem he.symm ⟨c, rest, rfl, hbracket⟩
  exact not_mem_of_isIdentifier h hm.part (List.mem_append_left q hmem)

include h ho in
theorem startsWithShape_shaped : LineRule.startsWithShape (name ++ c :: rest) = true := by
  have hpart : isIdentifierPart c = false := by
    simp only [isOpener, Bool.or_eq_true, beq_iff_eq] at ho
    rcases ho with (rfl | rfl) | rfl <;> decide
  rw [LineRule.startsWithShape, (isTight_of_isIdentifier h).trimStart_append, identifier?_append h hpart]
  simp [trimStart_cons_of_not_blank (isBlank_of_isOpener ho), ho]

include h ho in
/-- **The kind of a line that starts with a shaped node.** -/
theorem ofLine_shaped (htight : IsTight (name ++ c :: rest)) : LineKind.ofLine .flowchart (name ++ c :: rest) =
    if LineRule.hasArrow (name ++ c :: rest) then .statement else .declaration := by
  have hcomment : (after? "%%".toList (name ++ c :: rest)).isSome = false := comment_of_isIdentifier h (c :: rest)
  have hvariant : startsWithLower "flowchart-" (name ++ c :: rest) = false :=
    startsWithLower_shaped h ho (m := '-') (isMark_of (by decide)) (by decide) (by decide)
  have hkeyword : ∀ keyword ∈ ["flowchart", "graph", "end", "subgraph", "direction"],
      startsWithKeyword keyword (name ++ c :: rest) = false := by
    have hwords : ∀ keyword ∈ ["flowchart", "graph", "end", "subgraph", "direction"],
        keyword.toList.any isBlank = false ∧ keyword.toList.any isOpener = false := by decide
    exact fun keyword hk => startsWithKeyword_shaped h ho (hwords keyword hk).1 (hwords keyword hk).2
  have hend : isKeyword "end" (name ++ c :: rest) = false := by
    rw [Bool.eq_false_iff]
    intro he
    have hstart := hkeyword "end" (by decide)
    rw [startsWithKeyword_of_isKeyword he] at hstart
    cases hstart
  rw [ofLine_flowchart htight, hcomment, isFlowchartHeader, hvariant, hend, hkeyword "flowchart" (by decide),
    hkeyword "graph" (by decide), hkeyword "subgraph" (by decide), hkeyword "direction" (by decide),
    LineRule.isNodeDeclaration, startsWithShape_shaped h ho]
  cases LineRule.hasArrow (name ++ c :: rest) <;> rfl

end Shaped

end DiagramText
