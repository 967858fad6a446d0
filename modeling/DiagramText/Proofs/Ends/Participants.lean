import DiagramText.Proofs.Ends.Identifiers

/-!
# The participants of a message

A line is read as an edge before it is read as a message, and a source may hold colons and arrows. So the participants of
a message change places only where no edge is read of its line, or one with the same ends:

- the name of a source ends within the first participant, behind the dashes of the arrow, or with the colon
  (`exists_name_of_message`);
- behind the dashes no edge stands (`not_edgeBehind_colon`), and within the first participant one stands only where the
  arrow is one of an edge too (`not_edgeBehind_participant`);
- so whether the participants change places depends on the text of the message alone (`swapEnds_message_iff`).
-/

namespace DiagramText

open Text

variable {a b arrow m name rest : Text} {e : Ends}

/-! ## Names in the line of a message -/

section Names

theorem letters_of_messageArrow (h : arrow ∈ Message.arrows) : ∀ c ∈ arrow, c ∈ ['-', '>', 'x', ')'] := by
  have hall : ∀ arrow ∈ Message.arrows, (arrow.all fun c => ['-', '>', 'x', ')'].contains c) = true := by decide
  exact fun c hc => List.contains_iff_mem.mp (List.all_eq_true.mp (hall arrow h) c hc)

/-- Characters that neither a shape nor the arrow of an edge starts with. -/
def IsMiddle (text : Text) : Prop :=
  ∀ c ∈ text, isBlank c = false ∧ isOpener c = false ∧ c ∉ ['-', '=', '<']

theorem isMiddle_of_isIdentifier (h : isIdentifier a = true) : IsMiddle a := by
  intro c hc
  have hpart := isIdentifierPart_of_mem h hc
  exact ⟨isBlank_of_isIdentifierPart hpart, (endCharacter_of_isIdentifierPart hpart).2.2.2.2,
    not_mem_of_isIdentifierPart hpart (by decide)⟩

/-- Behind the dashes of an arrow the rest of it is in the middle of the line. -/
theorem isMiddle_of_messageArrow {x y : Text} (h : x ++ y ∈ Message.arrows) (hx : x ≠ [])
    (hlast : x.getLast? ≠ some '-') : IsMiddle y := by
  intro c hc
  have hdash : c ≠ '-' := by
    rintro rfl
    obtain ⟨s, t, rfl⟩ := List.append_of_mem hc
    rw [← List.append_assoc] at h
    obtain ⟨hu, -⟩ := messageArrow_of_dash_within h (by simp [hx])
    rcases List.append_eq_singleton_iff.mp hu with ⟨hnil, -⟩ | ⟨hone, -⟩
    · exact hx hnil
    · exact hlast (by rw [hone]; rfl)
  have hmem := letters_of_messageArrow h c (List.mem_append_right x hc)
  simp only [List.mem_cons, List.not_mem_nil, or_false] at hmem
  rcases hmem with rfl | rfl | rfl | rfl
  · exact absurd rfl hdash
  all_goals decide

/-- The name of a source ends within the first participant, behind the dashes of the arrow but before the colon, or with
the colon. -/
theorem exists_name_of_message (hb : isIdentifier b = true) (harrow : arrow ∈ Message.arrows)
    (he : a ++ (arrow ++ (b ++ ':' :: ' ' :: m)) = name ++ rest)
    (hends : EndsIn Ends.isSourceCharacter Ends.isSourceEnd name) :
    (∃ y, a = name ++ y ∧ rest = y ++ (arrow ++ (b ++ ':' :: ' ' :: m))) ∨
      (∃ h, rest = h ++ ':' :: ' ' :: m ∧ IsMiddle h) ∨ rest = ' ' :: m := by
  rcases List.append_eq_append_iff.mp he with ⟨x, hx, hrest⟩ | ⟨y, hy, hrest⟩
  · by_cases hne : x = []
    · rw [hne, List.append_nil] at hx
      rw [hne, List.nil_append] at hrest
      exact Or.inl ⟨[], by rw [hx, List.append_nil], hrest.symm⟩
    have hends' : EndsIn Ends.isSourceCharacter Ends.isSourceEnd x := (hx ▸ hends).of_append hne
    have hblank : ' ' ∉ x := fun hm => by cases List.all_eq_true.mp hends'.1 ' ' hm
    have hlast : x.getLast? ≠ some '-' := by
      obtain ⟨-, c, hc, hend⟩ := hends'
      rw [hc]
      rintro hdash
      rw [Option.some.inj hdash] at hend
      cases hend
    have he' : (arrow ++ b ++ [':']) ++ ' ' :: m = x ++ rest := by simpa using hrest
    obtain ⟨q, hq, rfl⟩ := exists_append_of_not_mem he'.symm ⟨' ', m, rfl, hblank⟩
    rcases List.eq_nil_or_concat q with rfl | ⟨h, c, rfl⟩
    · exact Or.inr (Or.inr rfl)
    · rw [List.concat_eq_append, ← List.append_assoc] at hq
      obtain ⟨hh, hc⟩ := List.append_inj' hq rfl
      refine Or.inr (Or.inl ⟨h, by rw [List.concat_eq_append, ← hc, List.append_assoc]; rfl, fun d hd => ?_⟩)
      have hmiddle := isMiddle_of_isIdentifier hb
      rcases List.append_eq_append_iff.mp hh with ⟨u, -, hu⟩ | ⟨u, hu, hrest⟩
      · exact hmiddle d (by rw [hu]; exact List.mem_append_right u hd)
      · rw [hrest] at hd
        rcases List.mem_append.mp hd with hd | hd
        · exact isMiddle_of_messageArrow (hu ▸ harrow) hne hlast d hd
        · exact hmiddle d hd
  · exact Or.inl ⟨y, hy, hrest⟩

/-- No edge stands in the middle of the line of a message. -/
theorem not_edgeBehind_colon (h : IsMiddle a) : ¬Ends.EdgeBehind (a ++ ':' :: ' ' :: m) := by
  intro hedge
  cases a with
  | nil =>
    have hahead := hedge.targetAhead fun c hc => by
      cases hc
      decide
    exact not_targetAhead_cons (by decide) (by decide) (fun hd => by cases hd) hahead
  | cons c a =>
    obtain ⟨hblank, hopen, hmark⟩ := h c List.mem_cons_self
    have hahead := hedge.targetAhead fun d hd => by
      cases hd
      exact hopen
    refine not_targetAhead_cons hblank hmark (fun hd => ?_) hahead
    cases a with
    | nil => cases hd
    | cons d a =>
      have hdash := (h d (by simp)).2.2
      rw [Option.some.inj hd] at hdash
      exact hdash (by decide)

/-- No edge stands within the first participant or behind it, unless the arrow is one of an edge. -/
theorem not_edgeBehind_participant (ha : ∀ c ∈ a, isIdentifierPart c = true) (harrow : arrow ∈ Message.arrows)
    (hedge : arrow ∉ Ends.edgeArrows) : ¬Ends.EdgeBehind (a ++ (arrow ++ rest)) := by
  have hedges : ∀ arrow ∈ Message.arrows, ∀ edge ∈ Ends.edgeArrows, (arrow <+: edge → arrow = edge) ∧
      (edge <+: arrow → arrow = edge ∨ arrow = edge ++ ['>']) := by
    decide
  have hstart : ∀ arrow ∈ Message.arrows, arrow ∈ Ends.edgeArrows ∨
      ∃ u ∈ [['-', '>'], ['-', 'x'], ['-', ')'], ['-', '-', '>'], ['-', '-', ')']], u <+: arrow := by
    decide
  obtain ⟨t, hdash⟩ := head_of_mem_messageArrows harrow
  refine not_edgeBehind_identifier_append ha (fun c hc => ?_) (fun h => ?_) fun d rest' hd he => ?_
  · rw [hdash] at hc
    cases hc
    decide
  · rw [targetAhead_iff, hdash, List.cons_append, trimStart_cons_of_not_blank (by decide), ← List.cons_append,
      ← hdash] at h
    obtain ⟨edge, he, behind, ht, hbehind⟩ := h
    rcases List.append_eq_append_iff.mp ht with ⟨z, hz, -⟩ | ⟨z, hz, hrest⟩
    · exact hedge ((hedges arrow harrow edge he).1 ⟨z, hz.symm⟩ ▸ he)
    · rcases (hedges arrow harrow edge he).2 ⟨z, hz.symm⟩ with heq | hlonger
      · exact hedge (heq ▸ he)
      · obtain rfl : z = ['>'] := List.append_cancel_left (hz.symm.trans hlonger)
        exact not_targetBehindArrow (Or.inr rfl) (hrest ▸ hbehind)
  · obtain ⟨u, hu, v, rfl⟩ := (hstart arrow harrow).resolve_left hedge
    simp only [List.mem_cons, List.not_mem_nil, or_false] at hu
    rcases hd with rfl | rfl <;> rcases hu with rfl | rfl | rfl | rfl | rfl <;> simp at he

end Names

/-! ## What is read -/

section Read

variable (ha : isIdentifier a = true) (hb : isIdentifier b = true) (harrow : arrow ∈ Message.arrows)

include ha hb harrow in
theorem newline_not_mem_message (hm : '\n' ∉ m) : '\n' ∉ a ++ (arrow ++ (b ++ ':' :: ' ' :: m)) := by
  have hnewline : '\n' ∉ arrow := fun h => by simpa using letters_of_messageArrow harrow _ h
  simp only [List.mem_append, List.mem_cons, not_or]
  exact ⟨not_mem_of_isIdentifier ha (by decide), hnewline, not_mem_of_isIdentifier hb (by decide), by decide, by decide,
    hm⟩

/-- No edge stands behind a name that ends behind the first participant, where no target is ahead of the text. -/
theorem not_edgeBehind_space (hm : ¬Ends.TargetAhead m) : ¬Ends.EdgeBehind (' ' :: m) := by
  intro hedge
  have hahead := hedge.targetAhead fun c hc => by
    cases hc
    decide
  exact hm ((targetAhead_gap_append isGap_space).mp hahead)

/-- The participants are the ends of an edge, where the arrow is one of an edge and no target is ahead of the text. -/
theorem isEdge_message (ha : isIdentifier a = true) (hb : isIdentifier b = true) (harrow : arrow ∈ Message.arrows)
    (hedge : arrow ∈ Ends.edgeArrows) (hm : ¬Ends.TargetAhead m) :
    Ends.IsEdge ⟨[], a, arrow, b, ':' :: ' ' :: m⟩ := by
  obtain ⟨t, hdash⟩ := head_of_mem_messageArrows harrow
  have hends := endsIn_source_of_isIdentifier ha
  refine ⟨isGap_nil, ⟨a, [], (List.append_nil a).symm, hends, isLeadingShape_nil fun c hc => ?_,
    fun more rest he hmore => ?_⟩, ⟨[], arrow, none, [], isGap_nil, hedge, fun _ hl => (by cases hl), isGap_nil,
    by simp [Edge.labelText]⟩, (Ends.isNode_of_isIdentifier hb).isTarget fun c hc => ?_⟩
  · rw [hdash] at hc
    cases hc
    decide
  · have he' : a ++ (arrow ++ (b ++ ':' :: ' ' :: m)) = (a ++ more) ++ rest := by
      rw [List.append_assoc, ← he, List.nil_append]
    rcases exists_name_of_message hb harrow he' (EndsIn.append hends.1 hmore) with ⟨y, hy, -⟩ | ⟨h, rfl, hh⟩ | rfl
    · rw [List.append_assoc, List.self_eq_append_right] at hy
      exact absurd (List.append_eq_nil_iff.mp hy).1 hmore.ne_nil
    · exact not_edgeBehind_colon hh
    · exact not_edgeBehind_space hm
  · cases hc
    decide

/-- The participants are the ends of a message. -/
theorem isMessage_message (ha : isIdentifier a = true) (hb : isIdentifier b = true) (harrow : arrow ∈ Message.arrows) :
    Ends.IsMessage ⟨[], a, arrow, b, ':' :: ' ' :: m⟩ := by
  have hname : ∀ {name}, isIdentifier name = true → ∀ c ∈ name, Message.isNameCharacter c = true := fun h c hc =>
    (endCharacter_of_isIdentifierPart (isIdentifierPart_of_mem h hc)).2.2.2.1
  refine ⟨isGap_nil, ⟨(isTight_of_isIdentifier ha).ne_nil, hname ha, fun less more he _ hmore => ?_⟩,
    ⟨[], arrow, [], isGap_nil, mem_messageArrows_iff.mpr harrow, isGap_nil, by simp, fun more he _ => ?_⟩,
    ⟨(isTight_of_isIdentifier hb).ne_nil, hname hb, Or.inr ⟨[], ' ' :: m, isGap_nil, rfl⟩⟩⟩
  · obtain ⟨c, more, rfl⟩ := List.exists_cons_of_ne_nil hmore
    have hc := isIdentifierPart_of_mem ha (c := c) (by rw [show a = less ++ c :: more from he]; simp)
    exact not_messageTargetAhead_cons (isBlank_of_isIdentifierPart hc)
      (ne_of_isIdentifierPart hc (by decide))
  · have hhead : '>' ∈ b := by
      rw [show b = '>' :: more from he]
      exact List.mem_cons_self
    exact absurd hhead (not_mem_of_isIdentifier hb (by decide))

/-- No edge is read of a message where the arrow is none of an edge, and no target is ahead of the text. -/
theorem ofEdge?_message_eq_none (ha : isIdentifier a = true) (hb : isIdentifier b = true)
    (harrow : arrow ∈ Message.arrows) (hedge : arrow ∉ Ends.edgeArrows) (hn : '\n' ∉ m) (hm : ¬Ends.TargetAhead m) :
    Ends.ofEdge? (a ++ (arrow ++ (b ++ ':' :: ' ' :: m))) = none := by
  refine (Ends.ofEdge?_eq_none_iff (newline_not_mem_message ha hb harrow hn)).mpr fun name rest ht hends => ?_
  rw [(isTight_of_isIdentifier ha).trimStart_append] at ht
  rcases exists_name_of_message hb harrow ht hends with ⟨y, hy, rfl⟩ | ⟨h, rfl, hh⟩ | rfl
  · refine not_edgeBehind_participant (fun c hc => isIdentifierPart_of_mem ha ?_) harrow hedge
    rw [hy]
    exact List.mem_append_right name hc
  · exact not_edgeBehind_colon hh
  · exact not_edgeBehind_space hm

/-- Where a target is ahead of the text of a message, everything up to the colon is the source of an edge. -/
theorem exists_isEdge_of_targetAhead (ha : isIdentifier a = true) (hb : isIdentifier b = true)
    (harrow : arrow ∈ Message.arrows) (hn : '\n' ∉ m) (hm : Ends.TargetAhead m) :
    ∃ between target behind, ' ' :: m = between ++ (target ++ behind) ∧
      Ends.IsEdge ⟨[], a ++ arrow ++ b ++ [':'], between, target, behind⟩ := by
  have hn' : '\n' ∉ ' ' :: m := by
    rw [List.mem_cons, not_or]
    exact ⟨by decide, hn⟩
  obtain ⟨between, target, behind, ht, hjoint, htarget⟩ :=
    ((targetAhead_gap_append isGap_space).mpr hm).exists_parts hn'
  dsimp only [List.cons_append, List.nil_append] at ht
  refine ⟨between, target, behind, ht, isGap_nil, ⟨_, [], (List.append_nil _).symm, ?_,
    ht ▸ isLeadingShape_nil fun c hc => ?_, fun more rest he hends => ?_⟩, hjoint, htarget⟩
  · have harrow' : arrow.all Ends.isSourceCharacter = true := by
      have hall : ∀ arrow ∈ Message.arrows, arrow.all Ends.isSourceCharacter = true := by decide
      exact hall arrow harrow
    have hcolon : EndsIn Ends.isSourceCharacter Ends.isSourceEnd [':'] := ⟨by decide, ':', rfl, by decide⟩
    refine EndsIn.append ?_ hcolon
    rw [List.all_append, List.all_append, (endsIn_source_of_isIdentifier ha).1, harrow',
      (endsIn_source_of_isIdentifier hb).1]
    rfl
  · cases hc
    decide
  · -- A longer name would hold the space.
    rw [List.nil_append] at he
    obtain ⟨c, more, rfl⟩ := List.exists_cons_of_ne_nil hends.ne_nil
    have hc := hends.head
    rw [← (List.cons.inj (ht.trans he)).1] at hc
    cases hc

end Read

/-! ## Swaps -/

section Swaps

/-- Behind both participants and the arrow stands the colon. -/
theorem dropWhile_message (ha : isIdentifier a = true) (hb : isIdentifier b = true) (harrow : arrow ∈ Message.arrows) :
    (b ++ (arrow ++ (a ++ ':' :: rest))).dropWhile Ends.isTargetCharacter = ':' :: rest := by
  have hname : ∀ {name}, isIdentifier name = true → ∀ d ∈ name, Ends.isTargetCharacter d = true := fun h d hd =>
    isTargetCharacter_of_start (endCharacter_of_isIdentifierPart (isIdentifierPart_of_mem h hd)).2.2.1
  have hall : ∀ arrow ∈ Message.arrows, arrow.all Ends.isTargetCharacter = true := by decide
  have hrun : ∀ d ∈ b ++ (arrow ++ a), Ends.isTargetCharacter d = true := by
    simp only [List.mem_append]
    rintro d (hd | hd | hd)
    · exact hname hb d hd
    · exact List.all_eq_true.mp (hall arrow harrow) d hd
    · exact hname ha d hd
  rw [show b ++ (arrow ++ (a ++ ':' :: rest)) = (b ++ (arrow ++ a)) ++ ':' :: rest by simp]
  exact dropWhile_append_cons hrun (by decide) rest

/-- Behind the name of a target in front of a space stands this space, or a shape. -/
theorem head_dropWhile_target {target behind : Text} (h : Ends.IsTarget target behind) (rest : Text) :
    ∃ c t, (target ++ ' ' :: rest).dropWhile Ends.isTargetCharacter = c :: t ∧ (c = ' ' ∨ isOpener c = true) := by
  obtain ⟨c, name, shape, rfl, hc, hname, -, hshape⟩ := h
  have hrun : ∀ d ∈ c :: name, Ends.isTargetCharacter d = true := by
    rintro d (_ | ⟨_, hd⟩)
    · exact isTargetCharacter_of_start hc
    · exact hname d hd
  rcases hshape.head with rfl | ⟨o, shape, rfl, ho⟩
  · rw [List.append_nil]
    exact ⟨' ', rest, dropWhile_append_cons hrun (by decide) rest, Or.inl rfl⟩
  · have hopen : Ends.isTargetCharacter o = false := by simp [Ends.isTargetCharacter, ho]
    rw [List.append_assoc]
    exact ⟨o, _, dropWhile_append_cons hrun hopen (shape ++ ' ' :: rest), Or.inr ho⟩

/-- The swap of an edge that has everything up to the colon for its source does not exchange the participants: a colon
would have to stand behind the name of the target. -/
theorem toText_swap_ne (ha : isIdentifier a = true) (hb : isIdentifier b = true) (harrow : arrow ∈ Message.arrows)
    {between target behind : Text} (ht : ' ' :: m = between ++ (target ++ behind))
    (h : Ends.IsEdge ⟨[], a ++ arrow ++ b ++ [':'], between, target, behind⟩) :
    (Ends.swap ⟨[], a ++ arrow ++ b ++ [':'], between, target, behind⟩).toText ≠
      b ++ (arrow ++ (a ++ ':' :: ' ' :: m)) := by
  obtain ⟨between, rfl⟩ : ∃ t, between = ' ' :: t := by
    obtain ⟨gap, arrow', label, g, -, harrow', -, -, hbetween⟩ := h.joint
    obtain ⟨d, t, rfl, -⟩ := edgeArrow_head harrow'
    obtain ⟨e, t', he⟩ := List.exists_cons_of_ne_nil (l := between) (by simp [show between = _ from hbetween])
    rw [he] at ht
    exact ⟨t', by rw [he, (List.cons.inj ht).1]⟩
  intro heq
  have hline : (Ends.swap ⟨[], a ++ arrow ++ b ++ [':'], ' ' :: between, target, behind⟩).toText =
      target ++ ' ' :: (between ++ (a ++ arrow ++ b ++ [':'] ++ behind)) := by
    simp [Ends.toText, Ends.swap]
  obtain ⟨c, t, hdrop, hc⟩ := head_dropWhile_target h.target (between ++ (a ++ arrow ++ b ++ [':'] ++ behind))
  dsimp only at hdrop
  rw [← hline, heq, dropWhile_message ha hb harrow] at hdrop
  rw [← (List.cons.inj hdrop).1] at hc
  rcases hc with hc | hc <;> cases hc

/-- **When a swap exchanges the participants of a message.** The arrow and everything from the colon on stay, unless the
text of the message starts with the arrow of an edge and a target. -/
theorem swapEnds_message_iff (ha : isIdentifier a = true) (hb : isIdentifier b = true)
    (harrow : arrow ∈ Message.arrows) (hn : '\n' ∉ m) :
    swapEnds (a ++ arrow ++ b ++ ':' :: ' ' :: m) = b ++ arrow ++ a ++ ':' :: ' ' :: m ↔ ¬Ends.TargetAhead m := by
  have hline := newline_not_mem_message ha hb harrow hn
  have htext : ∀ x y : Text, x ++ arrow ++ y ++ ':' :: ' ' :: m = x ++ (arrow ++ (y ++ ':' :: ' ' :: m)) := by simp
  rw [htext, htext]
  constructor
  · intro hswap hm
    obtain ⟨between, target, behind, ht, hedge⟩ := exists_isEdge_of_targetAhead ha hb harrow hn hm
    have hparts : a ++ (arrow ++ (b ++ ':' :: ' ' :: m)) =
        Ends.toText ⟨[], a ++ arrow ++ b ++ [':'], between, target, behind⟩ := by
      rw [ht]
      simp [Ends.toText]
    rw [hparts] at hline
    rw [hparts, swapEnds_toText hline (Or.inl hedge)] at hswap
    exact toText_swap_ne ha hb harrow ht hedge hswap
  · intro hm
    have hparts : a ++ (arrow ++ (b ++ ':' :: ' ' :: m)) = Ends.toText ⟨[], a, arrow, b, ':' :: ' ' :: m⟩ := by
      simp [Ends.toText]
    have hread : Ends.IsRead ⟨[], a, arrow, b, ':' :: ' ' :: m⟩ := by
      by_cases hedge : arrow ∈ Ends.edgeArrows
      · exact Or.inl (isEdge_message ha hb harrow hedge hm)
      · have hnone := ofEdge?_message_eq_none ha hb harrow hedge hn hm
        rw [hparts] at hline hnone
        exact (isMessage_message ha hb harrow).isRead hline hnone
    rw [hparts] at hline ⊢
    rw [swapEnds_toText hline hread]
    simp [Ends.toText, Ends.swap]

/-- An arrow further on in the text of a message does not matter. -/
theorem arrow_within_text_stays :
    isIdentifier "web".toList = true ∧ swapEnds "web-->api: done --> [ok] a->>b: c".toList =
      "api-->web: done --> [ok] a->>b: c".toList := by
  have hweb : isIdentifier "web".toList = true := by decide
  have hapi : isIdentifier "api".toList = true := by decide
  have harrow : "-->".toList ∈ Message.arrows := by decide
  have hno : ¬Ends.TargetAhead "done --> [ok] a->>b: c".toList :=
    not_targetAhead_cons (by decide) (by decide) (by decide)
  exact ⟨hweb, (swapEnds_message_iff hweb hapi harrow (by decide)).mpr hno⟩

/-- An arrow at the start of the text takes the whole message for the source of an edge. -/
theorem arrow_before_text_swaps_edge :
    swapEnds "A->>B: --> done".toList = "done --> A->>B:".toList ∧
      swapEnds "A->>B: --> done".toList ≠ "B->>A: --> done".toList := by
  decide +kernel

end Swaps

end DiagramText
