import Mathlib.Data.List.Infix
import DiagramText.Ends
import DiagramText.Proofs.Message.Reading
import DiagramText.Proofs.Shape
import DiagramText.Proofs.Text.Word

/-!
# The ends of a message

What the ends of a message are is told by the parts of its line alone:

- a target is a name, and nothing but a colon and a text can follow it (`Ends.IsMessageTarget`);
- the longest arrow of its place that leaves a target joins the ends (`Ends.IsMessageJoint`);
- a source is the shortest name behind which an arrow and a target stand (`Ends.IsMessageSource`);
- a message is read exactly where its parts are these (`Ends.ofMessage?_eq_some_iff`), and none is read where no name
  of a source is in the line (`Ends.ofMessage?_eq_none_iff`).
-/

namespace DiagramText

open Text

variable {text target between behind gap arrow line : Text} {e : Ends}

/-! ## Targets -/

namespace Ends

/-- A message ends behind its target, or goes on with a colon, perhaps behind a gap. -/
def IsMessageEnd (text : Text) : Prop :=
  text = [] ∨ ∃ gap rest, IsGap gap ∧ text = gap ++ ':' :: rest

/-- The target of a message in front of a text. -/
structure IsMessageTarget (target behind : Text) : Prop where
  ne_nil : target ≠ []
  name : ∀ c ∈ target, Message.isNameCharacter c = true
  ends : IsMessageEnd behind

end Ends

section Targets

theorem endsMessage_iff (hn : '\n' ∉ text) : Ends.endsMessage text = true ↔ Ends.IsMessageEnd text := by
  rw [Ends.endsMessage, Bool.or_eq_true, List.isEmpty_iff, Ends.IsMessageEnd]
  refine or_congr_right ?_
  constructor
  · intro h
    split at h
    · next body hb =>
      obtain ⟨gap, hg, ht⟩ := exists_gap_trimStart text
      exact ⟨gap, body, hg, hb ▸ ht⟩
    · cases h
  · rintro ⟨gap, rest, hg, rfl⟩
    have htrim : trimStart (gap ++ ':' :: rest) = ':' :: rest := by
      rw [trimStart_gap_append hg]
      exact trimStart_cons_of_not_blank (by decide) rest
    have hrest : '\n' ∉ rest := fun h => hn (List.mem_append_right gap (List.mem_cons_of_mem _ h))
    simp [htrim, hrest]

theorem not_blank_of_isNameCharacter {c : Char} (h : Message.isNameCharacter c = true) : isBlank c = false :=
  (isNameCharacter_iff.mp h).1

/-- No name goes on where a message ends. -/
theorem Ends.IsMessageEnd.head (h : Ends.IsMessageEnd text) :
    ∀ c, text.head? = some c → Message.isNameCharacter c = false := by
  intro c hc
  rcases h with rfl | ⟨gap, rest, hg, rfl⟩
  · cases hc
  · cases gap with
    | nil =>
      cases hc
      decide
    | cons d gap =>
      cases hc
      refine Bool.eq_false_iff.mpr fun hname => ?_
      have hblank := hg c List.mem_cons_self
      rw [not_blank_of_isNameCharacter hname] at hblank
      cases hblank

/-- No target stands where a message ends. -/
theorem Ends.IsMessageEnd.ne_append (h : Ends.IsMessageEnd text) (hg : IsGap gap)
    (ht : Ends.IsMessageTarget target behind) : text ≠ gap ++ (target ++ behind) := by
  obtain ⟨c, t, rfl⟩ := List.exists_cons_of_ne_nil ht.ne_nil
  have hc := ht.name c List.mem_cons_self
  rintro rfl
  rcases h with hnil | ⟨gap', rest, hg', he⟩
  · simp at hnil
  · have htrim := congrArg trimStart he
    rw [trimStart_gap_append hg, trimStart_gap_append hg', List.cons_append,
      trimStart_cons_of_not_blank (not_blank_of_isNameCharacter hc),
      trimStart_cons_of_not_blank (by decide)] at htrim
    rw [(List.cons.inj htrim).1] at hc
    cases hc

theorem Ends.IsMessageTarget.first (h : Ends.IsMessageTarget target behind) :
    ∃ c t, target = c :: t ∧ isBlank c = false := by
  obtain ⟨c, t, rfl⟩ := List.exists_cons_of_ne_nil h.ne_nil
  exact ⟨c, t, rfl, not_blank_of_isNameCharacter (h.name c List.mem_cons_self)⟩

/-- Behind an arrow a gap and a target are read. -/
theorem messageBehindArrow?_eq_some_iff (hn : '\n' ∉ text) :
    Ends.messageBehindArrow? text = some (gap, target, behind) ↔
      text = gap ++ (target ++ behind) ∧ IsGap gap ∧ Ends.IsMessageTarget target behind := by
  constructor
  · intro h
    simp only [Ends.messageBehindArrow?] at h
    split at h
    · next hread =>
      cases h
      have hsplit : trimStart text = (trimStart text).takeWhile Message.isNameCharacter ++
          (trimStart text).dropWhile Message.isNameCharacter := List.takeWhile_append_dropWhile.symm
      refine ⟨?_, isGap_indentation text, hread.1, fun c hc => mem_takeWhile hc, ?_⟩
      · rw [← hsplit, indentation_append_trimStart]
      · exact (endsMessage_iff (not_mem_of_trimStart_eq hn hsplit)).mp hread.2
    · cases h
  · rintro ⟨rfl, hg, ht⟩
    obtain ⟨htrim, hindent⟩ := trimStart_indentation_of_first hg ht.first behind
    have hends := (endsMessage_iff (not_mem_of_trimStart_eq hn htrim)).mpr ht.ends
    simp only [Ends.messageBehindArrow?, htrim, hindent, takeWhile_append_of_head ht.name ht.ends.head,
      dropWhile_append_of_head ht.name ht.ends.head]
    rw [if_pos ⟨ht.ne_nil, hends⟩]

end Targets

/-! ## Joints -/

namespace Ends

/-- What joins the ends of a message: an arrow with gaps around it. No head at the start of the target makes the arrow a
longer one, unless it is the whole target. -/
def IsMessageJoint (between target : Text) : Prop :=
  ∃ gap arrow gap', IsGap gap ∧ arrow ∈ messageArrows ∧ IsGap gap' ∧ between = gap ++ arrow ++ gap' ∧
    ∀ more, gap' ++ target = '>' :: more → arrow ++ ['>'] ∈ messageArrows → more = []

/-- An arrow and the target of a message stand in a text behind its blanks. -/
def MessageTargetAhead (text : Text) : Prop :=
  ∃ gap arrow gap' target behind, IsGap gap ∧ arrow ∈ messageArrows ∧ IsGap gap' ∧ IsMessageTarget target behind ∧
    text = gap ++ arrow ++ gap' ++ (target ++ behind)

end Ends

section Joints

theorem mem_messageArrows_iff : arrow ∈ Ends.messageArrows ↔ arrow ∈ Message.arrows := by
  have hperm : Ends.messageArrows.Perm Message.arrows := by decide
  exact hperm.mem_iff

theorem pairwise_swappableArrows : Ends.messageArrows.Pairwise fun a b => ¬a <+: b := by
  decide

theorem messageArrow_head (h : arrow ∈ Ends.messageArrows) : ∃ t, arrow = '-' :: t :=
  head_of_mem_messageArrows (mem_messageArrows_iff.mp h)

theorem trimStart_messageArrow (hg : IsGap gap) (ha : arrow ∈ Ends.messageArrows) (rest : Text) :
    trimStart (gap ++ (arrow ++ rest)) = arrow ++ rest ∧ indentation (gap ++ (arrow ++ rest)) = gap := by
  obtain ⟨t, ht⟩ := messageArrow_head ha
  exact trimStart_indentation_of_first hg ⟨'-', t, ht, by decide⟩ rest

/-- Where a gap and a target start with a head, a target is left behind the head only if this is not all of them. -/
theorem messageBehindArrow?_head_iff {more : Text} (hn : '\n' ∉ gap ++ (target ++ behind)) (hg : IsGap gap)
    (ht : Ends.IsMessageTarget target behind) (he : gap ++ target = '>' :: more) :
    Ends.messageBehindArrow? (more ++ behind) ≠ none ↔ more ≠ [] := by
  rw [← List.append_assoc, he, List.cons_append, List.mem_cons, not_or] at hn
  constructor
  · rintro hread rfl
    obtain ⟨⟨g, target', behind'⟩, hread⟩ := Option.ne_none_iff_exists'.mp hread
    obtain ⟨hb, hg', ht'⟩ := (messageBehindArrow?_eq_some_iff hn.2).mp hread
    exact ht.ends.ne_append hg' ht' hb
  · intro hmore
    obtain rfl : gap = [] := by
      cases gap with
      | nil => rfl
      | cons d gap =>
        have hd := hg d List.mem_cons_self
        rw [(List.cons.inj he).1] at hd
        cases hd
    rw [List.nil_append] at he
    have hmoretarget : Ends.IsMessageTarget more behind :=
      ⟨hmore, fun c hc => ht.name c (he ▸ List.mem_cons_of_mem _ hc), ht.ends⟩
    rw [(messageBehindArrow?_eq_some_iff hn.2).mpr ⟨(List.nil_append _).symm, isGap_nil, hmoretarget⟩]
    exact Option.some_ne_none _

/-- The arrow is the longest one behind which a target can be read, exactly where no head at the start of the target makes
it a longer one. -/
theorem messageArrow_longest_iff (hn : '\n' ∉ gap ++ (target ++ behind)) (ha : arrow ∈ Ends.messageArrows)
    (hg : IsGap gap) (ht : Ends.IsMessageTarget target behind) :
    (∀ arrow' ∈ Ends.messageArrows, ∀ rest, arrow ++ (gap ++ (target ++ behind)) = arrow' ++ rest →
        Ends.messageBehindArrow? rest ≠ none → arrow'.length ≤ arrow.length) ↔
      ∀ more, gap ++ target = '>' :: more → arrow ++ ['>'] ∈ Ends.messageArrows → more = [] := by
  have htext : ∀ {more}, gap ++ target = '>' :: more → gap ++ (target ++ behind) = '>' :: (more ++ behind) := by
    intro more he
    rw [← List.append_assoc, he, List.cons_append]
  constructor
  · intro hlongest more he hlonger
    refine Classical.byContradiction fun hmore => ?_
    have hle := hlongest _ hlonger (more ++ behind) (by rw [htext he]; simp)
      ((messageBehindArrow?_head_iff hn hg ht he).mpr hmore)
    rw [List.length_append, List.length_singleton] at hle
    exact Nat.not_succ_le_self _ hle
  · intro hhead arrow' ha' rest he hread
    rcases List.append_eq_append_iff.mp he with ⟨m, hm, hrest⟩ | ⟨m, hm, -⟩
    · rcases messageArrow_eq_or (mem_messageArrows_iff.mp ha) (mem_messageArrows_iff.mp ha') ⟨m, hm.symm⟩ with
        rfl | hlonger
      · exact Nat.le_refl _
      · obtain rfl : m = ['>'] := List.append_cancel_left (hm.symm.trans hlonger)
        obtain ⟨d, more, hd⟩ := List.exists_cons_of_ne_nil (List.append_ne_nil_of_right_ne_nil gap ht.ne_nil)
        rw [← List.append_assoc, hd] at hrest
        obtain ⟨rfl, rfl⟩ := List.cons.inj hrest
        exact absurd (hhead more hd (hlonger ▸ ha')) ((messageBehindArrow?_head_iff hn hg ht hd).mp hread)
    · rw [hm, List.length_append]
      exact Nat.le_add_right _ _

/-- Behind a source a joint and a target are read. -/
theorem messageBehindSource?_eq_some_iff (hn : '\n' ∉ text) :
    Ends.messageBehindSource? text = some (between, target, behind) ↔
      text = between ++ (target ++ behind) ∧ Ends.IsMessageJoint between target ∧
        Ends.IsMessageTarget target behind := by
  constructor
  · intro h
    obtain ⟨⟨arrow, gap', target', behind'⟩, hread, he⟩ := Option.map_eq_some_iff.mp h
    cases he
    obtain ⟨ha, rest, ht, hread, hlongest⟩ := (firstOf?_eq_some_iff pairwise_swappableArrows).mp hread
    have hn' : '\n' ∉ rest := not_mem_of_trimStart_eq hn ht
    obtain ⟨rfl, hg', htarget⟩ := (messageBehindArrow?_eq_some_iff hn').mp hread
    rw [ht] at hlongest
    refine ⟨?_, ⟨indentation text, arrow, gap', isGap_indentation text, ha, hg', rfl,
      (messageArrow_longest_iff hn' ha hg' htarget).mp hlongest⟩, htarget⟩
    conv => lhs; rw [← indentation_append_trimStart text, ht]
    simp
  · rintro ⟨rfl, ⟨gap, arrow, gap', hg, ha, hg', rfl, hhead⟩, htarget⟩
    have htext : gap ++ arrow ++ gap' ++ (target ++ behind) = gap ++ (arrow ++ (gap' ++ (target ++ behind))) := by simp
    obtain ⟨htrim, hindent⟩ := trimStart_messageArrow hg ha (gap' ++ (target ++ behind))
    rw [htext] at hn ⊢
    have hn' : '\n' ∉ gap' ++ (target ++ behind) := not_mem_of_trimStart_eq hn htrim
    have hchosen : firstOf? Ends.messageArrows Ends.messageBehindArrow? (arrow ++ (gap' ++ (target ++ behind))) =
        some (arrow, gap', target, behind) :=
      (firstOf?_eq_some_iff pairwise_swappableArrows).mpr ⟨ha, _, rfl,
        (messageBehindArrow?_eq_some_iff hn').mpr ⟨rfl, hg', htarget⟩,
        (messageArrow_longest_iff hn' ha hg' htarget).mpr hhead⟩
    rw [Ends.messageBehindSource?, htrim, hindent, hchosen]
    rfl

theorem messageBehindSource?_eq_none_iff (hn : '\n' ∉ text) :
    Ends.messageBehindSource? text = none ↔ ¬Ends.MessageTargetAhead text := by
  constructor
  · rintro hnone ⟨gap, arrow, gap', target, behind, hg, ha, hg', htarget, rfl⟩
    have htext : gap ++ arrow ++ gap' ++ (target ++ behind) = gap ++ (arrow ++ (gap' ++ (target ++ behind))) := by simp
    obtain ⟨htrim, -⟩ := trimStart_messageArrow hg ha (gap' ++ (target ++ behind))
    rw [htext] at hn hnone
    rw [Ends.messageBehindSource?, htrim, Option.map_eq_none_iff] at hnone
    have hread := firstOf?_eq_none_iff.mp hnone arrow ha _ rfl
    rw [(messageBehindArrow?_eq_some_iff (not_mem_of_trimStart_eq hn htrim)).mpr ⟨rfl, hg', htarget⟩] at hread
    cases hread
  · intro hno
    refine Option.eq_none_iff_forall_ne_some.mpr fun ⟨between, target, behind⟩ h => hno ?_
    obtain ⟨rfl, ⟨gap, arrow, gap', hg, ha, hg', rfl, _⟩, htarget⟩ := (messageBehindSource?_eq_some_iff hn).mp h
    exact ⟨gap, arrow, gap', target, behind, hg, ha, hg', htarget, rfl⟩

/-- Where an arrow and a target are ahead, the text starts with the arrow behind its blanks. -/
theorem Ends.MessageTargetAhead.exists_arrow (h : Ends.MessageTargetAhead text) :
    ∃ arrow ∈ Ends.messageArrows, arrow <+: trimStart text := by
  obtain ⟨gap, arrow, gap', target, behind, hg, ha, -, -, rfl⟩ := h
  have htext : gap ++ arrow ++ gap' ++ (target ++ behind) = gap ++ (arrow ++ (gap' ++ (target ++ behind))) := by simp
  rw [htext, (trimStart_messageArrow hg ha _).1]
  exact ⟨arrow, ha, List.prefix_append arrow _⟩

theorem not_messageTargetAhead_cons {c : Char} {rest : Text} (hblank : isBlank c = false) (hc : c ≠ '-') :
    ¬Ends.MessageTargetAhead (c :: rest) := by
  intro h
  obtain ⟨arrow, ha, t, ht⟩ := h.exists_arrow
  obtain ⟨t', rfl⟩ := messageArrow_head ha
  rw [trimStart_cons_of_not_blank hblank] at ht
  exact hc (List.cons.inj ht).1.symm

/-- Every arrow of a message has a dash. -/
theorem not_messageTargetAhead_of_no_dash (h : '-' ∉ text) : ¬Ends.MessageTargetAhead text := by
  intro hahead
  obtain ⟨arrow, ha, t, ht⟩ := hahead.exists_arrow
  obtain ⟨u, rfl⟩ := messageArrow_head ha
  obtain ⟨g, -, htext⟩ := exists_gap_trimStart text
  rw [htext, ← ht] at h
  exact h (by simp)

/-- No arrow of a message has three dashes. -/
theorem not_messageTargetAhead_dashes {rest : Text} (hg : IsGap gap) :
    ¬Ends.MessageTargetAhead (gap ++ '-' :: '-' :: '-' :: rest) := by
  intro h
  obtain ⟨arrow, ha, t, ht⟩ := h.exists_arrow
  have hall : ∀ arrow ∈ Ends.messageArrows, ¬arrow.take 3 <+: ['-', '-', '-'] := by decide
  rw [trimStart_gap_append hg, trimStart_cons_of_not_blank (by decide)] at ht
  have hstart : arrow <+: '-' :: '-' :: '-' :: rest := ⟨t, ht⟩
  exact hall arrow ha (hstart.take 3)

end Joints

/-! ## Sources -/

namespace Ends

/-- The source of a message in front of a text: a name. An arrow and a target stand behind no shorter one. -/
structure IsMessageSource (source behind : Text) : Prop where
  ne_nil : source ≠ []
  name : ∀ c ∈ source, Message.isNameCharacter c = true
  shortest : ∀ less more, source = less ++ more → less ≠ [] → more ≠ [] → ¬MessageTargetAhead (more ++ behind)

/-- The parts of a line are the ends of a message and what stands around them. -/
structure IsMessage (e : Ends) : Prop where
  before : IsGap e.before
  source : IsMessageSource e.source (e.between ++ (e.target ++ e.behind))
  joint : IsMessageJoint e.between e.target
  target : IsMessageTarget e.target e.behind

end Ends

section Sources

theorem Ends.IsMessageSource.first {source : Text} (h : Ends.IsMessageSource source behind) :
    ∃ c t, source = c :: t ∧ isBlank c = false := by
  obtain ⟨c, t, rfl⟩ := List.exists_cons_of_ne_nil h.ne_nil
  exact ⟨c, t, rfl, not_blank_of_isNameCharacter (h.name c List.mem_cons_self)⟩

/-- **What is read as a message.** -/
theorem Ends.ofMessage?_eq_some_iff (hn : '\n' ∉ line) :
    Ends.ofMessage? line = some e ↔ line = e.toText ∧ e.IsMessage := by
  constructor
  · intro h
    obtain ⟨⟨source, between, target, behind⟩, hread, rfl⟩ := Option.map_eq_some_iff.mp h
    obtain ⟨rest, ht, hshortest⟩ := shortestRun_eq_some_iff.mp hread
    have hn' : '\n' ∉ rest := not_mem_of_trimStart_eq hn ht
    obtain ⟨hrest, hjoint, htarget⟩ := (messageBehindSource?_eq_some_iff hn').mp hshortest.eq_some
    dsimp only at hrest hjoint htarget ⊢
    refine ⟨?_, isGap_indentation line, ⟨hshortest.ne_nil, List.all_eq_true.mp hshortest.all, ?_⟩, hjoint, htarget⟩
    · conv => lhs; rw [← indentation_append_trimStart line, ht, hrest]
      simp [Ends.toText]
    · intro less more hs hless hmore
      dsimp only at hs
      have hnone := hshortest.shortest less more hs hless hmore
      rw [hs, List.append_assoc] at ht
      rw [hrest] at ht hnone
      exact (messageBehindSource?_eq_none_iff (not_mem_of_trimStart_eq hn ht)).mp hnone
  · rintro ⟨rfl, hbefore, hsource, hjoint, htarget⟩
    obtain ⟨before, source, between, target, behind⟩ := e
    dsimp only at hbefore hsource hjoint htarget
    have htext : Ends.toText ⟨before, source, between, target, behind⟩ =
        before ++ (source ++ (between ++ (target ++ behind))) := by
      simp [Ends.toText]
    obtain ⟨htrim, hindent⟩ := trimStart_indentation_of_first hbefore hsource.first (between ++ (target ++ behind))
    rw [htext] at hn ⊢
    have hn' : '\n' ∉ between ++ (target ++ behind) := not_mem_of_trimStart_eq hn htrim
    have hrun : IsShortestRun Message.isNameCharacter Ends.messageBehindSource? source
        (between ++ (target ++ behind)) (between, target, behind) := by
      refine ⟨List.all_eq_true.mpr hsource.name, hsource.ne_nil,
        (messageBehindSource?_eq_some_iff hn').mpr ⟨rfl, hjoint, htarget⟩, fun less more hs hless hmore => ?_⟩
      have hless' := htrim.trans (by rw [hs, List.append_assoc] :
        source ++ (between ++ (target ++ behind)) = less ++ (more ++ (between ++ (target ++ behind))))
      exact (messageBehindSource?_eq_none_iff (not_mem_of_trimStart_eq hn hless')).mpr
        (hsource.shortest less more hs hless hmore)
    rw [Ends.ofMessage?, htrim, hindent, shortestRun_eq_some_iff.mpr ⟨_, rfl, hrun⟩, Option.map_some]

/-- No message is read where no arrow and target stand behind any name of a source. -/
theorem Ends.ofMessage?_eq_none_iff (hn : '\n' ∉ line) : Ends.ofMessage? line = none ↔
    ∀ name rest, trimStart line = name ++ rest → (name.all Message.isNameCharacter) = true → name ≠ [] →
      ¬Ends.MessageTargetAhead rest := by
  rw [Ends.ofMessage?, Option.map_eq_none_iff, shortestRun_eq_none_iff]
  exact forall₅_congr fun name rest ht _ _ => messageBehindSource?_eq_none_iff (not_mem_of_trimStart_eq hn ht)

end Sources

end DiagramText
