import DiagramText.Proofs.Ends.Swap

/-!
# Ends set apart from their arrow

Where a blank stands before the arrow of a line and no stroke in its ends, each end goes up to the blank that follows
it, however the line is cut:

- such ends are those of any edge (`Ends.IsPlain.eq_of_edge_cut`) and of any message (`Ends.IsPlain.eq_of_message_cut`);
- what joins them is told by what stands behind it (`joint_eq`, `messageJoint_eq`);
- so there is no second cut with the same exchange (`Ends.not_hasTwin`), and swapping twice restores the line exactly
  where its ends can change places (`swapEnds_swapEnds_spaced_iff`).
-/

namespace DiagramText

open Text

variable {c d : Char} {e f : Ends}
  {node name shape source target arrow arrow' between between' behind behind' gap gap' rest rest' text : Text}

namespace Ends

/-- An end of an arrow without a stroke: a name that holds no blank, and perhaps a whole shape. -/
structure IsPlain (node : Text) : Prop where
  name : ∀ c ∈ nameOf node, isBlank c = false
  shape : IsLeadingShape (shapeOf node) []
  dash : '-' ∉ node
  equals : '=' ∉ node

end Ends

/-! ## Where an end stops -/

section Stops

/-- A blank neither opens nor closes a shape. -/
theorem not_delimiter_of_isBlank (h : isBlank c = true) : isOpener c = false ∧ isCloser c = false := by
  constructor <;> refine Bool.eq_false_iff.mpr fun hd => ?_
  · rw [isBlank_of_isOpener hd] at h
    cases h
  · rw [isBlank_of_isCloser hd] at h
    cases h

/-- The last character of a plain end is no blank. -/
theorem Ends.IsPlain.last (h : Ends.IsPlain node) (hd : node.getLast? = some d) : isBlank d = false := by
  rw [← nameOf_append_shapeOf node] at hd
  rcases h.shape with ⟨c, label, closer, hshape, hs⟩ | ⟨hshape, -⟩
  · rw [hshape, List.getLast?_append, List.getLast?_append_of_ne_nil _ hs.closer_ne_nil] at hd
    rw [List.getLast?_eq_some_getLast hs.closer_ne_nil, Option.some_or, Option.some.injEq] at hd
    exact (hs.delimiter (Or.inr (hd ▸ List.getLast_mem hs.closer_ne_nil))).1
  · rw [hshape, List.append_nil] at hd
    exact h.name d (List.mem_of_getLast? hd)

/-- No shape goes on or starts where a joint of an edge does. -/
theorem Ends.IsJoint.head (h : Ends.IsJoint between) (text : Text) :
    ∀ c, (between ++ text).head? = some c → isOpener c = false ∧ isCloser c = false := by
  obtain ⟨gap, arrow, label, g, hg, ha, -, -, rfl⟩ := h
  have hall : ∀ arrow ∈ Ends.edgeArrows, (arrow.head?.any fun c => !isOpener c && !isCloser c) = true := by decide
  intro c hc
  cases gap with
  | cons b gap =>
    cases hc
    exact not_delimiter_of_isBlank (hg c List.mem_cons_self)
  | nil =>
    obtain ⟨d, hd, hno⟩ := (Option.any_eq_true _ _).mp (hall arrow ha)
    obtain ⟨t, rfl⟩ := List.head?_eq_some_iff.mp hd
    cases hc
    simpa using hno

/-- No joint of an edge starts in a run without strokes that a blank follows: a stroke is among the first two characters
of an arrow. -/
theorem joint_ne_run {run : Text} (hj : Ends.IsJoint between) (hd : isBlank d = false) (hdash : '-' ∉ d :: run)
    (hequals : '=' ∉ d :: run) (hc : isBlank c = true) : between ++ text ≠ d :: run ++ c :: rest := by
  obtain ⟨gap, arrow, label, g, hg, ha, -, -, rfl⟩ := hj
  obtain ⟨a, t, rfl, hstroke⟩ := edgeArrow_start ha
  intro he
  cases gap with
  | cons b gap =>
    have hb := hg b List.mem_cons_self
    rw [(List.cons.inj he).1, hd] at hb
    cases hb
  | nil =>
    obtain ⟨rfl, htail⟩ := List.cons.inj he
    rcases hstroke with ha' | hnext
    · simp only [List.mem_cons, List.not_mem_nil, or_false] at ha'
      rcases ha' with rfl | rfl
      · exact hdash List.mem_cons_self
      · exact hequals List.mem_cons_self
    · obtain ⟨t, rfl⟩ := List.head?_eq_some_iff.mp hnext
      cases run with
      | nil =>
        rw [← (List.cons.inj htail).1] at hc
        cases hc
      | cons x run =>
        rw [← (List.cons.inj htail).1] at hdash
        exact hdash (List.mem_cons_of_mem a List.mem_cons_self)

/-- Where a joint of an edge follows a name and its shape, these are the plain end that a blank follows. -/
theorem Ends.IsPlain.eq_of_edge_cut (h : Ends.IsPlain node) (hc : isBlank c = true)
    (hname : ∀ d ∈ name, isBlank d = false ∧ isOpener d = false) (hj : Ends.IsJoint between)
    (hshape : Ends.IsLeadingShape shape (between ++ text))
    (he : node ++ c :: rest = name ++ shape ++ (between ++ text)) : name ++ shape = node := by
  have hcut : name ++ (shape ++ (between ++ text)) = Ends.nameOf node ++ (Ends.shapeOf node ++ c :: rest) := by
    rw [← List.append_assoc, ← he, ← List.append_assoc, nameOf_append_shapeOf]
  -- The name of the end goes up to an opener or to the blank, and no other name goes further.
  have hstop : ∃ d t, Ends.shapeOf node ++ c :: rest = d :: t ∧ d ∉ name := by
    cases hs : Ends.shapeOf node with
    | nil => exact ⟨c, rest, rfl, fun hm => by rw [(hname c hm).1] at hc; cases hc⟩
    | cons o t =>
      have ho : isOpener o = true := isOpener_of_head_shapeOf (by rw [hs]; rfl)
      exact ⟨o, t ++ c :: rest, rfl, fun hm => by rw [(hname o hm).2] at ho; cases ho⟩
  obtain ⟨m, hm, hrest⟩ := exists_append_of_not_mem hcut hstop
  have hnode : node = name ++ (m ++ Ends.shapeOf node) := by
    rw [← List.append_assoc, ← hm, nameOf_append_shapeOf]
  cases m with
  | nil =>
    have hwhole : Ends.IsLeadingShape (Ends.shapeOf node) (c :: rest) := by
      refine h.shape.of_head fun d hd => ?_
      cases hd
      exact not_delimiter_of_isBlank hc
    have hread : Ends.leadingShape (Ends.shapeOf node ++ c :: rest) = (shape, between ++ text) :=
      leadingShape_eq_iff.mpr ⟨hrest.symm, hshape⟩
    obtain ⟨rfl, -⟩ := Prod.mk.inj (hread.symm.trans (leadingShape_eq_iff.mpr ⟨rfl, hwhole⟩))
    exact hnode.symm
  | cons d m =>
    have hd : d ∈ Ends.nameOf node := by rw [hm]; simp
    obtain rfl : shape = [] := by
      rcases hshape.head with hs | ⟨o, t, hs, ho⟩
      · exact hs
      · rw [hs] at hrest
        rw [(List.cons.inj hrest).1, isOpener_of_mem_nameOf hd] at ho
        cases ho
    have hdash : '-' ∉ d :: (m ++ Ends.shapeOf node) := fun hx =>
      h.dash (by rw [hnode]; exact List.mem_append_right name hx)
    have hequals : '=' ∉ d :: (m ++ Ends.shapeOf node) := fun hx =>
      h.equals (by rw [hnode]; exact List.mem_append_right name hx)
    have hno : between ++ text ≠ d :: (m ++ Ends.shapeOf node) ++ c :: rest :=
      joint_ne_run hj (h.name d hd) hdash hequals hc
    exact absurd (by simpa using hrest) hno

/-- Where an arrow of a message follows a name, this is the plain end that a blank follows. -/
theorem Ends.IsPlain.eq_of_message_cut (h : Ends.IsPlain node) (hc : isBlank c = true)
    (hname : ∀ d ∈ name, isBlank d = false) (hg : IsGap gap)
    (he : node ++ c :: rest = name ++ (gap ++ '-' :: text)) : name = node := by
  rcases List.append_eq_append_iff.mp he with ⟨m, hm, hrest⟩ | ⟨m, hm, hrest⟩
  · cases m with
    | nil => rw [hm, List.append_nil]
    | cons d m =>
      rw [(List.cons.inj hrest).1, hname d (by rw [hm]; simp)] at hc
      cases hc
  · obtain ⟨m', rfl, -⟩ := exists_append_of_not_mem hrest.symm
      ⟨'-', text, rfl, fun hd => h.dash (by rw [hm]; exact List.mem_append_right name hd)⟩
    cases hlast : m.getLast? with
    | none => rw [hm, List.getLast?_eq_none_iff.mp hlast, List.append_nil]
    | some d =>
      have hd : node.getLast? = some d := by rw [hm, List.getLast?_append, hlast]; rfl
      have hblank := hg d (List.mem_append_left m' (List.mem_of_getLast? hlast))
      rw [h.last hd] at hblank
      cases hblank

end Stops

/-! ## What joins two ends -/

section Joints

theorem isBlank_of_isTargetStart (h : Ends.isTargetStart c = true) : isBlank c = false :=
  isBlank_of_isTargetCharacter (isTargetCharacter_of_start h)

/-- Gaps in front of characters that are no blanks are the same. -/
theorem gap_eq (hg : IsGap gap) (hg' : IsGap gap') (hc : isBlank c = false) (hd : isBlank d = false)
    (he : gap ++ c :: rest = gap' ++ d :: rest') : gap = gap' := by
  rw [← indentation_gap_append hg hc rest, he, indentation_gap_append hg' hd rest']

/-- Two joints of an edge in front of the start of a target are the same. -/
theorem joint_eq (hj : Ends.IsJoint between) (hj' : Ends.IsJoint between') (hc : Ends.isTargetStart c = true)
    (hd : Ends.isTargetStart d = true) (he : between ++ c :: rest = between' ++ d :: rest') : between = between' := by
  obtain ⟨gap, arrow, label, g, hgap, ha, hl, hg, rfl⟩ := hj
  obtain ⟨gap', arrow', label', g', hgap', ha', hl', hg', rfl⟩ := hj'
  simp only [List.append_assoc] at he ⊢
  obtain ⟨htrim, hindent⟩ := trimStart_edgeArrow hgap ha (Edge.labelText label ++ (g ++ c :: rest))
  obtain ⟨htrim', hindent'⟩ := trimStart_edgeArrow hgap' ha' (Edge.labelText label' ++ (g' ++ d :: rest'))
  rw [he] at htrim hindent
  obtain rfl : gap = gap' := hindent.symm.trans hindent'
  have htext := htrim.symm.trans htrim'
  obtain rfl : arrow = arrow' := by
    rcases List.prefix_or_prefix_of_prefix ⟨_, rfl⟩ ⟨_, htext.symm⟩ with hs | hs
    · exact edgeArrow_eq_of_start ha ha' hs
    · exact (edgeArrow_eq_of_start ha' ha hs).symm
  have hbar : (g ++ c :: rest).head? ≠ some '|' := head_gap_append_ne_bar hg hc
  have hread := edgeLabel_labelText hl hbar
  rw [List.append_cancel_left htext, edgeLabel_labelText hl' (head_gap_append_ne_bar hg' hd)] at hread
  obtain ⟨hlabel, hbehind⟩ := Prod.mk.inj hread
  rw [hlabel, gap_eq hg' hg (isBlank_of_isTargetStart hd) (isBlank_of_isTargetStart hc) hbehind]

/-- A joint of a message in front of the start of a target is one of an edge, where a joint of an edge stands too. -/
theorem isJoint_of_isMessageJoint (hj : Ends.IsJoint between) (hj' : Ends.IsMessageJoint between' target)
    (hc : Ends.isTargetStart c = true) (he : between ++ c :: rest = between' ++ text) : Ends.IsJoint between' := by
  obtain ⟨gap, arrow, label, g, hgap, ha, hl, hg, rfl⟩ := hj
  obtain ⟨gap', arrow', g', hgap', ha', hg', rfl, -⟩ := hj'
  have hall : ∀ a ∈ Ends.edgeArrows, ∀ b ∈ Ends.messageArrows, a <+: b ∨ b <+: a →
      b ∈ Ends.edgeArrows ∨ b = a ++ ['>'] := by
    decide
  simp only [List.append_assoc] at he
  obtain ⟨htrim, hindent⟩ := trimStart_edgeArrow hgap ha (Edge.labelText label ++ (g ++ c :: rest))
  obtain ⟨htrim', hindent'⟩ := trimStart_messageArrow hgap' ha' (g' ++ text)
  rw [he] at htrim hindent
  have htext := htrim.symm.trans htrim'
  have hstart : arrow <+: arrow' ∨ arrow' <+: arrow :=
    List.prefix_or_prefix_of_prefix ⟨_, rfl⟩ ⟨_, htext.symm⟩
  rcases hall arrow ha arrow' ha' hstart with hedge | rfl
  · exact ⟨gap', arrow', none, g', hgap', hedge, fun _ hl => (by cases hl), hg', by simp [Edge.labelText]⟩
  · -- A head behind the arrow would be where its label, a gap or the target starts.
    rw [List.append_assoc] at htext
    have hhead : Ends.TargetBehindArrow ('>' :: (g' ++ text)) := by
      refine ⟨label, g, c, rest, hl, hg, hc, ?_⟩
      rw [List.append_assoc]
      exact (List.append_cancel_left htext).symm
    exact absurd hhead (not_targetBehindArrow (Or.inr rfl))

/-- An arrow that no head at the start of its target makes longer has no longer one in its place in front of the same
target. -/
theorem messageArrow_eq_of_start (ha : arrow ∈ Ends.messageArrows) (ha' : arrow' ∈ Ends.messageArrows)
    (hs : arrow <+: arrow') (hg' : IsGap gap') (ht : Ends.IsMessageTarget target behind)
    (hends : Ends.IsMessageEnd behind')
    (hhead : ∀ more, gap ++ target = '>' :: more → arrow ++ ['>'] ∈ Ends.messageArrows → more = [])
    (he : arrow ++ (gap ++ (target ++ behind)) = arrow' ++ (gap' ++ (target ++ behind'))) : arrow = arrow' := by
  rcases messageArrow_eq_or (mem_messageArrows_iff.mp ha) (mem_messageArrows_iff.mp ha') hs with rfl | rfl
  · rfl
  · rw [List.append_assoc] at he
    replace he := List.append_cancel_left he
    obtain ⟨d, more, hd⟩ := List.exists_cons_of_ne_nil (List.append_ne_nil_of_right_ne_nil gap ht.ne_nil)
    rw [← List.append_assoc, hd, List.cons_append] at he
    obtain ⟨rfl, hbehind⟩ := List.cons.inj he
    rw [hhead more hd ha', List.nil_append] at hbehind
    have hno : behind ≠ gap' ++ (target ++ behind') := ht.ends.ne_append hg' ⟨ht.ne_nil, ht.name, hends⟩
    exact absurd hbehind hno

/-- Two joints of a message between the same ends are the same. -/
theorem messageJoint_eq (hj : Ends.IsMessageJoint between target) (ht : Ends.IsMessageTarget target behind)
    (hj' : Ends.IsMessageJoint between' source) (hs : Ends.IsMessageTarget source behind')
    (htarget : between ++ (target ++ behind) = between' ++ (target ++ behind'))
    (hsource : between ++ (source ++ behind) = between' ++ (source ++ behind')) : between = between' := by
  obtain ⟨gap, arrow, g, hgap, ha, hg, rfl, hhead⟩ := hj
  obtain ⟨gap', arrow', g', hgap', ha', hg', rfl, hhead'⟩ := hj'
  simp only [List.append_assoc] at htarget hsource ⊢
  have hgaps : gap = gap' := by
    rw [← (trimStart_messageArrow hgap ha _).2, htarget, (trimStart_messageArrow hgap' ha' _).2]
  rw [hgaps] at htarget hsource ⊢
  replace htarget := List.append_cancel_left htarget
  replace hsource := List.append_cancel_left hsource
  -- A longer arrow would take the head at the start of the target of the shorter one.
  obtain rfl : arrow = arrow' := by
    rcases List.prefix_or_prefix_of_prefix ⟨_, rfl⟩ ⟨_, htarget.symm⟩ with hstart | hstart
    · exact messageArrow_eq_of_start ha ha' hstart hg' ht hs.ends hhead htarget
    · exact (messageArrow_eq_of_start ha' ha hstart hg hs ht.ends hhead' hsource.symm).symm
  obtain ⟨c, t, rfl, hc⟩ := ht.first
  rw [gap_eq hg hg' hc hc (List.append_cancel_left htarget)]

end Joints

/-! ## Other cuts -/

namespace Ends

/-- A line whose ends are plain, with a blank before its arrow. -/
structure IsSpaced (e : Ends) : Prop where
  source : IsPlain e.source
  target : IsPlain e.target
  blank : ∃ c rest, e.between = c :: rest ∧ isBlank c = true

end Ends

section Cuts

theorem Ends.IsRead.first (h : e.IsRead) : (∃ c t, e.source = c :: t ∧ isBlank c = false) ∧
    ∃ c t, e.target = c :: t ∧ isBlank c = false := by
  rcases h with h | ⟨-, h⟩
  · obtain ⟨c, t, ht, hc⟩ := h.target.head
    obtain ⟨name, shape, hs, hends, -, -⟩ := h.source
    obtain ⟨d, m, rfl⟩ := List.exists_cons_of_ne_nil hends.ne_nil
    exact ⟨⟨d, m ++ shape, hs, isBlank_of_isSourceCharacter hends.head⟩, c, t, ht, isBlank_of_isTargetStart hc⟩
  · exact ⟨h.source.first, h.target.first⟩

/-- However the line is cut and its exchange is read, plain ends with a blank behind them are the ends. -/
theorem Ends.IsRead.ends_eq (hf : f.IsRead) (h : e.IsSpaced)
    (hline : e.source ++ (e.between ++ (e.target ++ e.behind)) = f.target ++ (f.between ++ (f.source ++ f.behind)))
    (hswap : e.target ++ (e.between ++ (e.source ++ e.behind)) = f.source ++ (f.between ++ (f.target ++ f.behind))) :
    f.target = e.source ∧ f.source = e.target := by
  obtain ⟨c, rest, hbetween, hc⟩ := h.blank
  rw [hbetween, List.cons_append] at hline hswap
  rcases hf with ⟨-, hs, hj, ht⟩ | ⟨-, -, hs, hj, ht⟩
  · obtain ⟨hends, hshape, -⟩ := Ends.isSource_iff.mp hs
    obtain ⟨-, hchars, -, hshape'⟩ := Ends.isTarget_iff.mp ht
    have hsource : ∀ d ∈ Ends.nameOf f.source, isBlank d = false ∧ isOpener d = false := fun d hd =>
      ⟨isBlank_of_isSourceCharacter (List.all_eq_true.mp hends.1 d hd), isOpener_of_mem_nameOf hd⟩
    have htarget : ∀ d ∈ Ends.nameOf f.target, isBlank d = false ∧ isOpener d = false := fun d hd =>
      ⟨isBlank_of_isTargetCharacter (hchars d hd), isOpener_of_mem_nameOf hd⟩
    rw [← nameOf_append_shapeOf f.target] at hline
    rw [← nameOf_append_shapeOf f.source] at hswap
    have hfirst := h.source.eq_of_edge_cut hc htarget hj (hshape'.of_head (hj.head _)) hline
    have hsecond := h.target.eq_of_edge_cut hc hsource hj hshape hswap
    rw [nameOf_append_shapeOf] at hfirst hsecond
    exact ⟨hfirst, hsecond⟩
  · obtain ⟨gap, arrow, gap', hg, ha, -, hbetween', -⟩ := hj
    obtain ⟨t, rfl⟩ := messageArrow_head ha
    rw [hbetween'] at hline hswap
    simp only [List.append_assoc, List.cons_append] at hline hswap
    exact ⟨h.source.eq_of_message_cut hc (fun d hd => not_blank_of_isNameCharacter (ht.name d hd)) hg hline,
      h.target.eq_of_message_cut hc (fun d hd => not_blank_of_isNameCharacter (hs.name d hd)) hg hswap⟩

/-- What joins two ends is the same in the line and in the one with its ends exchanged. -/
theorem Ends.IsRead.between_eq (he : e.IsRead) (hf : f.IsRead) (htarget : f.target = e.source)
    (hline : e.between ++ (e.target ++ e.behind) = f.between ++ (e.target ++ f.behind))
    (hswap : e.between ++ (e.source ++ e.behind) = f.between ++ (e.source ++ f.behind)) : e.between = f.between := by
  rcases he with he | ⟨-, he⟩ <;> rcases hf with hf | ⟨-, hf⟩
  · obtain ⟨c, t, ht, hc⟩ := he.target.head
    rw [ht] at hline
    exact joint_eq he.joint hf.joint hc hc hline
  · obtain ⟨c, t, ht, hc⟩ := he.target.head
    rw [ht] at hline
    exact joint_eq he.joint (isJoint_of_isMessageJoint he.joint hf.joint hc hline) hc hc hline
  · obtain ⟨c, t, hs, hc⟩ := hf.target.head
    rw [htarget] at hs
    rw [hs] at hswap
    exact joint_eq (isJoint_of_isMessageJoint hf.joint he.joint hc hswap.symm) hf.joint hc hc hswap
  · have hj := hf.joint
    have ht := hf.target
    rw [htarget] at hj ht
    exact messageJoint_eq he.joint he.target hj ht hline hswap

/-- A line is cut behind the blanks at its start. -/
theorem Ends.parts_of_toText_eq (he : IsGap e.before) (hf : IsGap f.before)
    (hs : ∃ c t, e.source = c :: t ∧ isBlank c = false) (hs' : ∃ c t, f.source = c :: t ∧ isBlank c = false)
    (h : e.toText = f.toText) : e.before = f.before ∧
      e.source ++ (e.between ++ (e.target ++ e.behind)) = f.source ++ (f.between ++ (f.target ++ f.behind)) := by
  obtain ⟨c, t, hs, hc⟩ := hs
  obtain ⟨d, u, hs', hd⟩ := hs'
  simp only [Ends.toText, List.append_assoc] at h
  have hbefore : e.before = f.before := by
    rw [hs, hs'] at h
    exact gap_eq he hf hc hd h
  rw [hbefore] at h
  exact ⟨hbefore, List.append_cancel_left h⟩

/-- **No second cut.** A line whose ends are plain, with a blank before its arrow, has no other cut with the same
exchange. -/
theorem Ends.not_hasTwin (hn : '\n' ∉ e.toText) (he : e.IsRead) (h : e.IsSpaced) : ¬e.HasTwin := by
  rintro ⟨g, hne, htext, hswap, hr⟩
  have hf : g.swap.IsRead := (Ends.isRead_swap_iff (htext ▸ hn)).mpr hr
  obtain ⟨f, rfl⟩ : ∃ f : Ends, g = f.swap := ⟨g.swap, rfl⟩
  rw [Ends.swap_swap] at hf hswap
  obtain ⟨hbefore, hline⟩ : e.before = f.before ∧
      e.source ++ (e.between ++ (e.target ++ e.behind)) = f.target ++ (f.between ++ (f.source ++ f.behind)) :=
    Ends.parts_of_toText_eq (f := f.swap) he.before hf.before he.first.1 hf.first.2 htext.symm
  obtain ⟨-, hline'⟩ : e.before = f.before ∧
      e.target ++ (e.between ++ (e.source ++ e.behind)) = f.source ++ (f.between ++ (f.target ++ f.behind)) :=
    Ends.parts_of_toText_eq (e := e.swap) he.before hf.before he.first.2 hf.first.1 hswap.symm
  obtain ⟨hsource, htarget⟩ := hf.ends_eq h hline hline'
  rw [hsource, htarget] at hline hline'
  replace hline := List.append_cancel_left hline
  have hbetween := he.between_eq hf hsource hline (List.append_cancel_left hline')
  rw [hbetween] at hline
  have hbehind : e.behind = f.behind := List.append_cancel_left (List.append_cancel_left hline)
  refine hne ?_
  rw [Ends.swap, hsource, htarget, ← hbetween, ← hbefore, ← hbehind]

/-- **When swapping twice restores a spaced line.** It is restored exactly where the ends that are read of it can change
places. -/
theorem swapEnds_swapEnds_spaced_iff (hn : '\n' ∉ e.toText) (he : e.IsRead) (h : e.IsSpaced) :
    swapEnds (swapEnds e.toText) = e.toText ↔ e.IsReversible := by
  rw [swapEnds_swapEnds_toText_iff hn he]
  exact or_iff_left (Ends.not_hasTwin hn he h)

end Cuts

end DiagramText
