import DiagramText.Proofs.Edge.Headed
import DiagramText.Proofs.Ends.Identifiers

/-!
# The ends of a headed arrow

Two identifiers with a headed arrow between them are an edge, whatever the length of the arrow. What a swap makes of the
line is another matter:

- an arrow of two strokes is one of those whose ends can be swapped (`isEdge_headed`), and no longer one is
  (`ofEdge?_headed_eq_none`);
- a longer arrow of dashes that follows its source directly is taken for that of a message, and only its last two dashes
  are: the others go with the source (`isMessage_headed`);
- any other line is left alone (`ofMessage?_headed_eq_none`).

So the two readings agree except in the second case (`swapEnds_headed_iff`).
-/

namespace DiagramText

open Text

variable {stroke : Char} {n : Nat} {a b gap gap' more rest text : Text}

/-! ## Edges -/

section Edges

/-- Behind a headed arrow no name of a source ends in front of an edge, where no stroke is in the rest of the line. -/
theorem not_edgeBehind_of_headed (hs : stroke = '-' ∨ stroke = '=') (hg : IsGap gap) (hdash : '-' ∉ text)
    (hequals : '=' ∉ text) (he : gap ++ (headed stroke n ++ text) = more ++ rest)
    (hends : EndsIn Ends.isSourceCharacter Ends.isSourceEnd more) : ¬Ends.EdgeBehind rest := by
  obtain ⟨m, -, rfl⟩ := exists_append_of_headed hg he hends.ne_nil
    (fun c hc => isBlank_of_isSourceCharacter (List.all_eq_true.mp hends.1 c hc))
    (fun c hc => by
      obtain ⟨-, d, hd, hend⟩ := hends
      rw [hc, Option.some.injEq] at hd
      rintro rfl
      rw [← hd] at hend
      rcases hs with rfl | rfl <;> cases hend)
  rw [List.mem_append, not_or] at hdash hequals
  exact not_edgeBehind_of_no_stroke hdash.2 hequals.2

/-- Of the headed arrows, those of two strokes are the ones whose ends can be swapped. -/
theorem eq_zero_of_targetAhead (hs : stroke = '-' ∨ stroke = '=') (hg : IsGap gap)
    (h : Ends.TargetAhead (gap ++ (headed stroke n ++ text))) : n = 0 := by
  cases n with
  | zero => rfl
  | succ n =>
    rw [targetAhead_gap_append hg, targetAhead_iff, headed_succ] at h
    obtain ⟨arrow, ha, rest, ht, hrest⟩ := h
    have hblank : isBlank stroke = false := by rcases hs with rfl | rfl <;> decide
    rw [List.cons_append, trimStart_cons_of_not_blank hblank] at ht
    -- Three strokes without a head are one, but another stroke or the head follows them.
    obtain ⟨rfl, hbehind⟩ : stroke = '-' ∧ List.replicate n stroke ++ ['>'] ++ text = rest := by
      simp only [Ends.edgeArrows, List.mem_cons, List.not_mem_nil, or_false] at ha
      rcases hs with rfl | rfl <;> rcases ha with rfl | rfl | rfl | rfl | rfl | rfl | rfl | rfl | rfl <;>
        simp_all
    cases n with
    | zero => exact absurd (hbehind ▸ hrest) (not_targetBehindArrow (Or.inr rfl))
    | succ n => exact absurd (hbehind ▸ hrest) (not_targetBehindArrow (Or.inl rfl))

/-- Behind a piece of an identifier and a headed arrow behind it no edge stands, unless the arrow has two strokes. -/
theorem not_edgeBehind_identifier (ha : ∀ c ∈ a, isIdentifierPart c = true) (hs : stroke = '-' ∨ stroke = '=')
    (hg : IsGap gap) (hlong : n ≠ 0) : ¬Ends.EdgeBehind (a ++ (gap ++ (headed stroke n ++ text))) := by
  refine not_edgeBehind_identifier_append ha (fun c hc => ?_) (fun h => hlong (eq_zero_of_targetAhead hs hg h))
    fun d rest hd he => ?_
  · obtain ⟨d, rest, hd, ho, -⟩ := exists_head_headed hs hg n text
    rw [hd] at hc
    exact Option.some.inj hc ▸ ho
  · obtain ⟨k, rfl⟩ := Nat.exists_eq_succ_of_ne_zero hlong
    cases gap with
    | cons e gap =>
      have hblank := hg e List.mem_cons_self
      rw [(List.cons.inj he).1] at hblank
      cases hblank
    | nil =>
      -- The third character of the arrow is a stroke too.
      have h3 : stroke = d := (List.cons.inj (List.cons.inj (List.cons.inj he).2).2).1
      rcases hd with rfl | rfl <;> rcases hs with rfl | rfl <;> cases h3

/-- No edge is read of two identifiers with a longer arrow between them. -/
theorem ofEdge?_headed_eq_none (ha : isIdentifier a = true) (hs : stroke = '-' ∨ stroke = '=') (hg : IsGap gap)
    (hdash : '-' ∉ text) (hequals : '=' ∉ text) (hn : '\n' ∉ a ++ (gap ++ (headed stroke n ++ text)))
    (hlong : n ≠ 0) : Ends.ofEdge? (a ++ (gap ++ (headed stroke n ++ text))) = none := by
  have hpart : ∀ c ∈ a, isIdentifierPart c = true := fun c hc => isIdentifierPart_of_mem ha hc
  refine (Ends.ofEdge?_eq_none_iff hn).mpr fun name rest ht hends => ?_
  rw [(isTight_of_isIdentifier ha).trimStart_append] at ht
  rcases List.append_eq_append_iff.mp ht with ⟨m, hm, hrest⟩ | ⟨m, hm, rfl⟩
  · by_cases hne : m = []
    · rw [hne, List.nil_append] at hrest
      rw [← hrest]
      exact not_edgeBehind_identifier (a := []) (fun c hc => (by cases hc)) hs hg hlong
    · exact not_edgeBehind_of_headed hs hg hdash hequals hrest ((hm ▸ hends).of_append hne)
  · exact not_edgeBehind_identifier (fun c hc => hpart c (by rw [hm]; simp [hc])) hs hg hlong

/-- Two identifiers with an arrow of two strokes between them are the ends of an edge. -/
theorem isEdge_headed (ha : isIdentifier a = true) (hb : isIdentifier b = true) (hs : stroke = '-' ∨ stroke = '=')
    (hg : IsGap gap) (hg' : IsGap gap') : Ends.IsEdge ⟨[], a, gap ++ headed stroke 0 ++ gap', b, []⟩ := by
  have hmem : headed stroke 0 ∈ Ends.edgeArrows := by rcases hs with rfl | rfl <;> decide
  refine ⟨isGap_nil, ⟨a, [], (List.append_nil a).symm, endsIn_source_of_isIdentifier ha,
    isLeadingShape_nil fun c hc => ?_, fun more rest he hends => ?_⟩,
    ⟨gap, headed stroke 0, none, gap', hg, hmem, fun _ hl => (by cases hl), hg', by simp [Edge.labelText]⟩,
    (Ends.isNode_of_isIdentifier hb).isTarget fun c hc => (by cases hc)⟩
  · obtain ⟨d, rest, hd, ho, -⟩ := exists_head_headed hs hg 0 (gap' ++ (b ++ []))
    have hc' : (gap ++ (headed stroke 0 ++ (gap' ++ (b ++ [])))).head? = some c := by simpa using hc
    rw [hd] at hc'
    exact Option.some.inj hc' ▸ ho
  · have he' : gap ++ (headed stroke 0 ++ (gap' ++ b)) = more ++ rest := by simpa using he
    exact not_edgeBehind_of_headed hs hg (not_mem_gap_append hg' hb (by decide) (by decide))
      (not_mem_gap_append hg' hb (by decide) (by decide)) he' hends

end Edges

/-! ## Messages -/

section Messages

/-- What is cut off an identifier with dashes behind it starts with another dash, or with a part of the identifier. -/
theorem exists_head_of_cut {less : Text} (he : a ++ List.replicate n '-' = less ++ more) (hmore : more ≠ []) :
    (∃ k, more = List.replicate (k + 1) '-') ∨ ∃ c m, more = c :: m ∧ c ∈ a := by
  have hdashes : ∀ {k}, more = List.replicate k '-' → ∃ k, more = List.replicate (k + 1) '-' := by
    rintro (_ | k) hk
    · exact absurd hk hmore
    · exact ⟨k, hk⟩
  rcases List.append_eq_append_iff.mp he with ⟨m, -, hm⟩ | ⟨m, hm, hrest⟩
  · exact Or.inl (hdashes (List.append_eq_replicate_iff.mp hm.symm).2.2)
  · cases m with
    | nil => exact Or.inl (hdashes hrest)
    | cons c m => exact Or.inr ⟨c, m ++ List.replicate n '-', hrest, by rw [hm]; simp⟩

/-- The dashes of a longer arrow that stands directly behind its source, but the last two, go with the source. -/
theorem isMessage_headed (ha : isIdentifier a = true) (hb : isIdentifier b = true) (hg' : IsGap gap') (n : Nat) :
    Ends.IsMessage ⟨[], a ++ List.replicate n '-', headed '-' 0 ++ gap', b, []⟩ := by
  have hpart : ∀ c ∈ a, isIdentifierPart c = true := fun c hc => isIdentifierPart_of_mem ha hc
  have hdashes : ∀ k rest, ¬Ends.MessageTargetAhead (List.replicate (k + 1) '-' ++ (headed '-' 0 ++ rest)) := by
    intro k rest
    rw [← List.append_assoc, ← headed_append, headed_succ]
    exact not_messageTargetAhead_dashes isGap_nil
  refine ⟨isGap_nil, ⟨by simp [(isTight_of_isIdentifier ha).ne_nil], fun c hc => ?_, fun less more he _ hmore => ?_⟩,
    ⟨[], headed '-' 0, gap', isGap_nil, by decide, hg', by simp, fun more he _ => ?_⟩,
    ⟨(isTight_of_isIdentifier hb).ne_nil, fun c hc => ?_, Or.inl rfl⟩⟩
  · rcases List.mem_append.mp hc with hc | hc
    · exact (endCharacter_of_isIdentifierPart (hpart c hc)).2.2.2.1
    · rw [List.eq_of_mem_replicate hc]
      decide
  · dsimp only
    rcases exists_head_of_cut he hmore with ⟨k, rfl⟩ | ⟨c, m, rfl, hc⟩
    · rw [List.append_assoc]
      exact hdashes k _
    · have hc' := hpart c hc
      exact not_messageTargetAhead_cons (isBlank_of_isIdentifierPart hc')
        (ne_of_isIdentifierPart hc' (by decide))
  · exact absurd (by rw [he]; exact List.mem_cons_self) (not_mem_gap_append hg' hb (c := '>') (by decide) (by decide))
  · exact (endCharacter_of_isIdentifierPart (isIdentifierPart_of_mem hb hc)).2.2.2.1

/-- No message is read where a longer arrow is drawn by equals signs, or stands behind a blank. -/
theorem ofMessage?_headed_eq_none (ha : isIdentifier a = true) (hs : stroke = '-' ∨ stroke = '=') (hg : IsGap gap)
    (hdash : '-' ∉ text) (hn : '\n' ∉ a ++ (gap ++ (headed stroke n ++ text))) (hlong : n ≠ 0)
    (hno : stroke = '=' ∨ gap ≠ []) : Ends.ofMessage? (a ++ (gap ++ (headed stroke n ++ text))) = none := by
  refine (Ends.ofMessage?_eq_none_iff hn).mpr fun name rest ht hname hne => ?_
  rw [(isTight_of_isIdentifier ha).trimStart_append] at ht
  rcases hs with rfl | rfl
  · have hgap : gap ≠ [] := hno.resolve_left (by decide)
    obtain ⟨k, rfl⟩ := Nat.exists_eq_succ_of_ne_zero hlong
    have hdashes : ¬Ends.MessageTargetAhead (gap ++ (headed '-' (k + 1) ++ text)) := by
      rw [headed_succ]
      exact not_messageTargetAhead_dashes hg
    -- The name ends where the blanks start, or before.
    rcases List.append_eq_append_iff.mp ht with ⟨m, hm, hrest⟩ | ⟨m, hm, rfl⟩
    · cases m with
      | nil =>
        rw [List.nil_append] at hrest
        exact hrest ▸ hdashes
      | cons c m =>
        obtain ⟨d, gap, rfl⟩ := List.exists_cons_of_ne_nil hgap
        obtain rfl := (List.cons.inj hrest).1
        have hblank := hg d List.mem_cons_self
        rw [not_blank_of_isNameCharacter (List.all_eq_true.mp hname d (by rw [hm]; simp))] at hblank
        cases hblank
    · cases m with
      | nil => exact hdashes
      | cons c m =>
        have hc := isIdentifierPart_of_mem ha (c := c) (by rw [hm]; simp)
        exact not_messageTargetAhead_cons (isBlank_of_isIdentifierPart hc)
          (ne_of_isIdentifierPart hc (by decide))
  · have hline : '-' ∉ a ++ (gap ++ (headed '=' n ++ text)) := by
      simp only [List.mem_append, headed, List.mem_replicate, List.mem_singleton, not_or]
      exact ⟨not_mem_of_isIdentifier ha (by decide), fun h => (by cases hg '-' h), by simp, hdash⟩
    rw [ht, List.mem_append, not_or] at hline
    exact not_messageTargetAhead_of_no_dash hline.2

end Messages

/-! ## Swaps -/

section Swaps

variable (ha : isIdentifier a = true) (hb : isIdentifier b = true) (hs : stroke = '-' ∨ stroke = '=')
  (hg : IsGap gap) (hg' : IsGap gap') (hn : '\n' ∉ gap) (hn' : '\n' ∉ gap')

include ha hb hs hn hn' in
theorem newline_not_mem_headed (n : Nat) : '\n' ∉ a ++ (gap ++ (headed stroke n ++ (gap' ++ b))) := by
  have hstrokes : '\n' ∉ headed stroke n := by
    simp only [headed, List.mem_append, List.mem_replicate, List.mem_singleton, not_or]
    rcases hs with rfl | rfl <;> simp
  simp only [List.mem_append, not_or]
  exact ⟨not_mem_of_isIdentifier ha (by decide), hn, hstrokes, hn', not_mem_of_isIdentifier hb (by decide)⟩

include ha hb hs hg hg' hn hn' in
/-- The ends of an arrow of two strokes are swapped. -/
theorem swapEnds_headed_short : swapEnds (a ++ (gap ++ (headed stroke 0 ++ (gap' ++ b)))) =
    b ++ (gap ++ (headed stroke 0 ++ (gap' ++ a))) := by
  have htext : a ++ (gap ++ (headed stroke 0 ++ (gap' ++ b))) =
      Ends.toText ⟨[], a, gap ++ headed stroke 0 ++ gap', b, []⟩ := by simp [Ends.toText]
  have hline := newline_not_mem_headed ha hb hs hn hn' 0
  rw [htext] at hline ⊢
  rw [swapEnds_toText hline (Or.inl (isEdge_headed ha hb hs hg hg'))]
  simp [Ends.toText, Ends.swap]

include ha hb hs hg hg' hn hn' in
/-- A line with a longer arrow stays as it is, unless the arrow consists of dashes and stands directly behind its
source. -/
theorem swapEnds_headed_self (hlong : n ≠ 0) (hno : stroke = '=' ∨ gap ≠ []) :
    swapEnds (a ++ (gap ++ (headed stroke n ++ (gap' ++ b)))) = a ++ (gap ++ (headed stroke n ++ (gap' ++ b))) := by
  have hline := newline_not_mem_headed ha hb hs hn hn' n
  have hdash : '-' ∉ gap' ++ b := not_mem_gap_append hg' hb (by decide) (by decide)
  have hequals : '=' ∉ gap' ++ b := not_mem_gap_append hg' hb (by decide) (by decide)
  refine swapEnds_eq_self ?_
  rw [Ends.ofLine?, ofEdge?_headed_eq_none ha hs hg hdash hequals hline hlong,
    ofMessage?_headed_eq_none ha hs hg hdash hline hlong hno, Option.none_or]

include ha hb hg' hn' in
/-- The dashes of a longer arrow that stands directly behind its source, but the last two, go with the source. -/
theorem swapEnds_headed_dashes (hlong : n ≠ 0) : swapEnds (a ++ (headed '-' n ++ (gap' ++ b))) =
    b ++ (headed '-' 0 ++ (gap' ++ (a ++ List.replicate n '-'))) := by
  have htext : a ++ (headed '-' n ++ (gap' ++ b)) =
      Ends.toText ⟨[], a ++ List.replicate n '-', headed '-' 0 ++ gap', b, []⟩ := by
    rw [headed_append]
    simp [Ends.toText]
  have hnil : '\n' ∉ ([] : Text) := List.not_mem_nil
  have hline := newline_not_mem_headed ha hb (Or.inl rfl) hnil hn' n
  have hnone := ofEdge?_headed_eq_none ha (Or.inl rfl) isGap_nil (not_mem_gap_append hg' hb (by decide) (by decide))
    (not_mem_gap_append hg' hb (by decide) (by decide)) hline hlong
  rw [List.nil_append, htext] at hline hnone
  rw [htext, swapEnds_toText hline ((isMessage_headed ha hb hg' n).isRead hline hnone)]
  simp [Ends.toText, Ends.swap]

include ha hb hg' hn' in
/-- Where dashes have gone with the source, the swapped line is neither the old one nor the swapped edge. -/
theorem swapEnds_headed_dashes_ne (hlong : n ≠ 0) :
    swapEnds (a ++ (headed '-' n ++ (gap' ++ b))) ≠ a ++ (headed '-' n ++ (gap' ++ b)) ∧
      ∀ arrow label, Edge.ofText? (swapEnds (a ++ (headed '-' n ++ (gap' ++ b)))) ≠ some ⟨b, arrow, label, a⟩ := by
  obtain ⟨k, rfl⟩ := Nat.exists_eq_succ_of_ne_zero hlong
  have hswap := swapEnds_headed_dashes ha hb hg' hn' hlong
  -- The swapped line ends in a dash.
  have hdash : (swapEnds (a ++ (headed '-' (k + 1) ++ (gap' ++ b)))).getLast? = some '-' := by
    rw [hswap, List.replicate_succ', ← List.append_assoc, ← List.append_assoc, ← List.append_assoc,
      ← List.append_assoc, List.getLast?_concat]
  refine ⟨fun hself => ?_, fun arrow label hread => ?_⟩
  · rw [hself, ← List.append_assoc, ← List.append_assoc] at hdash
    exact getLast?_append_identifier_ne _ hb (by decide) hdash
  · have htail : IsTail (swapEnds (a ++ (headed '-' (k + 1) ++ (gap' ++ b)))) := by
      refine ⟨?_, fun c hc => ?_⟩
      · rw [hswap]
        have hnil : '\n' ∉ ([] : Text) := List.not_mem_nil
        have hline := newline_not_mem_headed hb ha (Or.inl rfl) hnil hn' 0
        simp only [List.mem_append, not_or, List.not_mem_nil, not_false_eq_true, true_and] at hline ⊢
        exact ⟨hline.1, hline.2.1, hline.2.2.1, hline.2.2.2, fun hm => by cases List.eq_of_mem_replicate hm⟩
      · rw [hdash] at hc
        cases hc
        decide
    obtain ⟨-, -, g0, g1, g2, -, -, -, hspaced⟩ := Edge.ofText?_eq_spaced htail hread
    rw [hspaced, Edge.spaced] at hdash
    exact getLast?_append_identifier_ne _ ha (by decide) hdash

include ha hb hs hg hg' hn hn' in
/-- **When a swapped edge is the edge turned round.** Two identifiers with a headed arrow between them are an edge with
the first for its source and the second for its target. A swap leaves the line alone or makes it the edge from the second
to the first, unless the arrow has more than two dashes and stands directly behind its source. -/
theorem swapEnds_headed_iff : Edge.ofText? (a ++ (gap ++ (headed stroke n ++ (gap' ++ b)))) =
      some ⟨a, headed stroke n, none, b⟩ ∧
    (swapEnds (a ++ (gap ++ (headed stroke n ++ (gap' ++ b)))) = a ++ (gap ++ (headed stroke n ++ (gap' ++ b))) ∨
      Edge.ofText? (swapEnds (a ++ (gap ++ (headed stroke n ++ (gap' ++ b))))) = some ⟨b, headed stroke n, none, a⟩ ↔
      stroke = '=' ∨ n = 0 ∨ gap ≠ []) := by
  refine ⟨Edge.ofText?_identifiers ha hb hs hg hg' hn', fun h => ?_, fun h => ?_⟩
  · refine Classical.byContradiction fun hno => ?_
    obtain ⟨hstroke, hlong, hgap⟩ : stroke ≠ '=' ∧ n ≠ 0 ∧ ¬gap ≠ [] := by simpa only [not_or] using hno
    obtain rfl := Classical.not_not.mp hgap
    obtain rfl := hs.resolve_right hstroke
    have hne := swapEnds_headed_dashes_ne ha hb hg' hn' hlong
    exact h.elim hne.1 (hne.2 _ _)
  · by_cases hshort : n = 0
    · subst hshort
      rw [swapEnds_headed_short ha hb hs hg hg' hn hn']
      exact Or.inr (Edge.ofText?_identifiers hb ha hs hg hg' hn')
    · refine Or.inl (swapEnds_headed_self ha hb hs hg hg' hn hn' hshort ?_)
      exact h.imp_right fun h => h.resolve_left hshort

/-- A long thick arrow stays as it is, and so does a long arrow behind a space. -/
theorem long_arrows_stay :
    Edge.ofText? "api====>web".toList = some ⟨"api".toList, "====>".toList, none, "web".toList⟩ ∧
      (swapEnds "api====>web".toList = "api====>web".toList ∨
        Edge.ofText? (swapEnds "api====>web".toList) = some ⟨"web".toList, "====>".toList, none, "api".toList⟩) ∧
      (swapEnds "api ---->web".toList = "api ---->web".toList ∨
        Edge.ofText? (swapEnds "api ---->web".toList) = some ⟨"web".toList, "---->".toList, none, "api".toList⟩) := by
  have hapi : isIdentifier "api".toList = true := by decide
  have hweb : isIdentifier "web".toList = true := by decide
  have hequals : '=' = '-' ∨ '=' = '=' := Or.inr rfl
  have hdash : '-' = '-' ∨ '-' = '=' := Or.inl rfl
  have hthick := swapEnds_headed_iff (n := 2) hapi hweb hequals isGap_nil isGap_nil List.not_mem_nil List.not_mem_nil
  have hspace := swapEnds_headed_iff (n := 2) hapi hweb hdash isGap_space isGap_nil (by decide) List.not_mem_nil
  exact ⟨hthick.1, hthick.2.mpr (Or.inl rfl), hspace.2.mpr (Or.inr (Or.inr (by decide)))⟩

/-- One of three dashes goes with the source: the arrow gets shorter, and the first node another name. -/
theorem long_arrow_is_torn :
    Edge.ofText? "a--->b".toList = some ⟨"a".toList, "--->".toList, none, "b".toList⟩ ∧
      swapEnds "a--->b".toList = "b-->a-".toList ∧
      ¬(swapEnds "a--->b".toList = "a--->b".toList ∨
        Edge.ofText? (swapEnds "a--->b".toList) = some ⟨"b".toList, "--->".toList, none, "a".toList⟩) := by
  decide +kernel

end Swaps

end DiagramText
