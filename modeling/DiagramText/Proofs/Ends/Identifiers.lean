import DiagramText.Proofs.Ends.Swap
import DiagramText.Proofs.Text.Mark

/-!
# Identifiers at the ends

- An identifier is a node that can be at either end of an edge (`Ends.isNode_of_isIdentifier`), and each of its
  characters can be in the name of a participant;
- behind a piece of an identifier an edge stands only where a target is ahead behind all of the identifier, or where its
  last character is the tail of an arrow (`not_edgeBehind_identifier_append`).
-/

namespace DiagramText

open Text

variable {a node text : Text} {c : Char}

section Identifiers

/-- A part of an identifier can stand in the name of a source, of a target and of a participant. -/
theorem endCharacter_of_isIdentifierPart (h : isIdentifierPart c = true) :
    Ends.isSourceCharacter c = true ∧ Ends.isSourceEnd c = true ∧ Ends.isTargetStart c = true ∧
      Message.isNameCharacter c = true ∧ isOpener c = false := by
  have hne : ∀ d, isIdentifierPart d = false → c ≠ d := fun d => ne_of_isIdentifierPart h
  have hopen : isOpener c = false := by
    simp [isOpener, hne '[' (by decide), hne '(' (by decide), hne '\x7b' (by decide)]
  simp [Ends.isSourceCharacter, Ends.isSourceEnd, Ends.isTargetStart, Ends.isTargetCharacter, Message.isNameCharacter,
    isBlank_of_isIdentifierPart h, hopen, hne '<' (by decide), hne '-' (by decide), hne '=' (by decide),
    hne '.' (by decide), hne ':' (by decide), hne '|' (by decide), hne '>' (by decide)]

theorem endsIn_source_of_isIdentifier (h : isIdentifier node = true) :
    EndsIn Ends.isSourceCharacter Ends.isSourceEnd node := by
  have hne : node ≠ [] := by
    rintro rfl
    cases h
  exact ⟨List.all_eq_true.mpr fun c hc => (endCharacter_of_isIdentifierPart (isIdentifierPart_of_mem h hc)).1, _,
    List.getLast?_eq_some_getLast hne,
    (endCharacter_of_isIdentifierPart (isIdentifierPart_of_mem h (List.getLast_mem hne))).2.1⟩

/-- An identifier is a node that can be at either end. -/
theorem Ends.isNode_of_isIdentifier (h : isIdentifier node = true) : Ends.IsNode node := by
  refine ⟨node, [], (List.append_nil node).symm, endsIn_source_of_isIdentifier h, fun c hc => ?_, fun c hc => ?_,
    Or.inl rfl⟩
  · exact (endCharacter_of_isIdentifierPart (isIdentifierPart_of_mem h (List.mem_of_head? hc))).2.2.1
  · exact isTargetCharacter_of_start (endCharacter_of_isIdentifierPart (isIdentifierPart_of_mem h hc)).2.2.1

/-- A target is ahead of the last character of an identifier only where this is the tail of an arrow. -/
theorem exists_tail_of_targetAhead (hc : isIdentifierPart c = true) (h : Ends.TargetAhead (c :: text)) :
    ∃ d rest, (d = 'o' ∨ d = 'x') ∧ text = '-' :: '-' :: d :: rest := by
  have hall : ∀ arrow ∈ Ends.edgeArrows, arrow.head? ∈ ['-', '=', '<'].map some ∨
      arrow = "o--o".toList ∨ arrow = "x--x".toList := by
    decide
  rw [targetAhead_iff, trimStart_cons_of_not_blank (isBlank_of_isIdentifierPart hc)] at h
  obtain ⟨arrow, ha, rest, ht, -⟩ := h
  rcases hall arrow ha with hhead | rfl | rfl
  · obtain ⟨d, hd, hdc⟩ := List.mem_map.mp hhead
    obtain ⟨t, rfl⟩ := List.head?_eq_some_iff.mp hdc.symm
    rw [← (List.cons.inj ht).1] at hd
    exact absurd hd (not_mem_of_isIdentifierPart hc (by decide))
  · exact ⟨'o', rest, Or.inl rfl, (List.cons.inj ht).2⟩
  · exact ⟨'x', rest, Or.inr rfl, (List.cons.inj ht).2⟩

/-- Behind a piece of an identifier no edge stands, where no target is ahead behind all of it and its last character is
not the tail of an arrow. -/
theorem not_edgeBehind_identifier_append (ha : ∀ c ∈ a, isIdentifierPart c = true)
    (ho : ∀ c, text.head? = some c → isOpener c = false) (hno : ¬Ends.TargetAhead text)
    (htail : ∀ d rest, (d = 'o' ∨ d = 'x') → text ≠ '-' :: '-' :: d :: rest) : ¬Ends.EdgeBehind (a ++ text) := by
  intro h
  have hahead := h.targetAhead fun c hc => by
    cases a with
    | nil => exact ho c hc
    | cons d a =>
      cases hc
      exact (endCharacter_of_isIdentifierPart (ha c List.mem_cons_self)).2.2.2.2
  match a, ha, hahead with
  | [], _, hahead => exact hno hahead
  | [c], ha, hahead =>
    obtain ⟨d, rest, hd, he⟩ := exists_tail_of_targetAhead (ha c List.mem_cons_self) hahead
    exact htail d rest hd he
  | c :: d :: a, ha, hahead =>
    have hc := ha c List.mem_cons_self
    have hdash : d ≠ '-' := ne_of_isIdentifierPart (ha d (by simp)) (by decide)
    refine not_targetAhead_cons (isBlank_of_isIdentifierPart hc) (not_mem_of_isIdentifierPart hc (by decide))
      (fun hd => ?_) hahead
    exact hdash (Option.some.inj hd)

end Identifiers

end DiagramText
