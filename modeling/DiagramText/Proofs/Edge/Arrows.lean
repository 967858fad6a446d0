import DiagramText.Proofs.Edge.Forms

/-!
# The arrow behind a source

- an arrow is ahead of a text (`ArrowAhead`) where some form draws one behind the blanks and something follows it: this
  is when `Edge.arrowAndTarget?` succeeds (`arrowAndTarget?_eq_none_iff`);
- of the arrows behind which a target can be read, the longest is read (`arrowAndTarget?_eq_some`);
- an arrow with a label and a target is read where single spaces stand around it (`arrowAndTarget?_spaced`).
-/

namespace DiagramText

open Text

/-! ## The label and the target -/

section Target

variable {text target : Text} {label : Option Text}

/-- Behind an arrow stands a label between bars and a target, or the target alone. -/
theorem labelAndTarget?_cases (h : IsTail text) (hne : text ≠ []) :
    (∃ l rest, trimStart text = '|' :: l ++ '|' :: rest ∧ '|' ∉ l ∧ rest ≠ [] ∧
      Edge.labelAndTarget? text = some (some l, trimStart rest)) ∨
    ((∀ l rest, trimStart text = '|' :: l ++ '|' :: rest → '|' ∉ l → rest = []) ∧
      Edge.labelAndTarget? text = some (none, trimStart text)) := by
  have htrim : trim (trimStart text) = trimStart text := (h.isTight_trimStart hne).trim_eq
  cases hb : barLabel? (trimStart text) with
  | none =>
    refine Or.inr ⟨fun l rest hl hn => ?_, ?_⟩
    · rw [barLabel?_eq_some_iff.mpr ⟨hl, hn⟩] at hb
      cases hb
    · simp only [Edge.labelAndTarget?, hb]
      rw [h.remainder?_eq, if_neg hne, Option.map_some, htrim]
  | some found =>
    obtain ⟨l, rest⟩ := found
    obtain ⟨hl, hn⟩ := barLabel?_eq_some_iff.mp hb
    have hrest : IsTail rest := (h.of_trimStart_eq hl).of_cons
    by_cases hre : rest = []
    · refine Or.inr ⟨fun l' rest' hl' hn' => ?_, ?_⟩
      · rw [barLabel?_eq_some_iff.mpr ⟨hl', hn'⟩] at hb
        cases hb
        exact hre
      · simp only [Edge.labelAndTarget?, hb]
        rw [hrest.remainder?_eq, if_pos hre, h.remainder?_eq, if_neg hne, Option.map_none, Option.map_some, htrim]
    · have htrim' : trim (trimStart rest) = trimStart rest := (hrest.isTight_trimStart hre).trim_eq
      refine Or.inl ⟨l, rest, hl, hn, hre, ?_⟩
      simp only [Edge.labelAndTarget?, hb, hrest.remainder?_eq, if_neg hre, Option.map_some, htrim']

theorem labelAndTarget?_eq_none_iff (h : IsTail text) : Edge.labelAndTarget? text = none ↔ text = [] := by
  constructor
  · intro hnone
    by_cases hne : text = []
    · exact hne
    · rcases labelAndTarget?_cases h hne with ⟨_, _, _, _, _, h'⟩ | ⟨_, h'⟩
      · rw [h'] at hnone
        cases hnone
      · rw [h'] at hnone
        cases hnone
  · rintro rfl
    rfl

/-- Label and target make up what stands behind an arrow, with gaps before each of them. -/
theorem labelAndTarget?_eq_append (h : IsTail text) (h' : Edge.labelAndTarget? text = some (label, target)) :
    IsTight target ∧ ∃ g1 g2, IsGap g1 ∧ IsGap g2 ∧ text = g1 ++ Edge.labelText label ++ g2 ++ target := by
  have hne : text ≠ [] := by
    rintro rfl
    cases h'
  obtain ⟨g1, hg1, ht⟩ := exists_gap_trimStart text
  rcases labelAndTarget?_cases h hne with ⟨l, rest, hl, hn, hre, hs⟩ | ⟨_, hs⟩
  · rw [hs] at h'
    cases h'
    have hrest : IsTail rest := (h.of_trimStart_eq hl).of_cons
    obtain ⟨g2, hg2, hr⟩ := exists_gap_trimStart rest
    refine ⟨hrest.isTight_trimStart hre, g1, g2, hg1, hg2, ?_⟩
    rw [List.append_assoc, ← hr]
    conv => lhs; rw [ht, hl]
    simp [Edge.labelText]
  · rw [hs] at h'
    cases h'
    refine ⟨h.isTight_trimStart hne, g1, [], hg1, isGap_nil, ?_⟩
    simpa [Edge.labelText] using ht

/-- A label holds no bar. Where there is none, the target does not start with one, or ends with it. -/
def IsLabelled : Option Text → Text → Prop
  | some label, _ => '|' ∉ label
  | none, target => ∀ label rest, target = '|' :: label ++ '|' :: rest → '|' ∉ label → rest = []

theorem isLabelled_of_labelAndTarget? (h : IsTail text) (h' : Edge.labelAndTarget? text = some (label, target)) :
    IsLabelled label target := by
  have hne : text ≠ [] := by
    rintro rfl
    cases h'
  rcases labelAndTarget?_cases h hne with ⟨l, rest, _, hn, _, hs⟩ | ⟨hno, hs⟩
  · rw [hs] at h'
    cases h'
    exact hn
  · rw [hs] at h'
    cases h'
    exact hno

/-- Label and target are read behind an arrow where one space stands before the target. -/
theorem labelAndTarget?_spaced (ht : IsTight target) (hl : IsLabelled label target) :
    Edge.labelAndTarget? (Edge.labelText label ++ ' ' :: target) = some (label, target) := by
  have hstart : trimStart (' ' :: target) = target := by
    rw [trimStart_cons_of_blank isBlank_space, ht.trimStart_eq]
  have htail : IsTail (' ' :: target) := ht.toIsTail.append (a := [' ']) ht.ne_nil (by decide)
  cases label with
  | some l =>
    have hbar : trimStart ('|' :: l ++ '|' :: ' ' :: target) = '|' :: l ++ '|' :: ' ' :: target :=
      trimStart_cons_of_not_blank (by decide) _
    simp only [Edge.labelText, List.append_assoc, List.cons_append, List.nil_append] at hbar ⊢
    rw [Edge.labelAndTarget?, hbar, ← List.cons_append, barLabel?_eq_some_iff.mpr ⟨rfl, hl⟩]
    simp only [htail.remainder?_eq, List.cons_ne_nil, if_false, Option.map_some, hstart, ht.trim_eq]
  | none =>
    rcases labelAndTarget?_cases htail (List.cons_ne_nil _ _) with ⟨l, rest, hbar, hn, hre, _⟩ | ⟨_, hs⟩
    · rw [hstart] at hbar
      exact absurd (hl l rest hbar hn) hre
    · rw [Edge.labelText, List.nil_append, hs, hstart]

end Target

/-! ## The arrow -/

/-- An arrow stands at the start of a text, behind its blanks, and something follows it. -/
def ArrowAhead (text : Text) : Prop :=
  ∃ form ∈ Edge.arrows, ∃ arrow rest, form.Draws arrow ∧ trimStart text = arrow ++ rest ∧ rest ≠ []

section Arrow

variable {form : ArrowForm} {text arrow target x y gap blanks : Text} {label : Option Text}

/-- An arrow is read wherever one is ahead. -/
theorem arrowAndTarget?_eq_none_iff (h : IsTail text) : Edge.arrowAndTarget? text = none ↔ ¬ArrowAhead text := by
  simp only [Edge.arrowAndTarget?, List.findSome?_eq_none_iff, Option.map_eq_none_iff]
  constructor
  · rintro hnone ⟨form, hf, arrow, rest, hd, ht, hne⟩
    have htail : IsTail rest := h.of_trimStart_eq ht
    exact hne ((labelAndTarget?_eq_none_iff htail).mp (hnone form hf (arrow, rest) (mem_cuts_iff.mpr ⟨hd, ht⟩)))
  · rintro hno form hf ⟨arrow, rest⟩ hcut
    obtain ⟨hd, ht⟩ := mem_cuts_iff.mp hcut
    have htail : IsTail rest := h.of_trimStart_eq ht
    refine (labelAndTarget?_eq_none_iff htail).mpr ?_
    by_cases hne : rest = []
    · exact hne
    · exact absurd ⟨form, hf, arrow, rest, hd, ht, hne⟩ hno

theorem arrowAndTarget?_ne_none {rest : Text} (hf : form ∈ Edge.arrows) (hd : form.Draws arrow)
    (ht : trimStart text = arrow ++ rest) (hr : Edge.labelAndTarget? rest ≠ none) :
    Edge.arrowAndTarget? text ≠ none := by
  intro h
  simp only [Edge.arrowAndTarget?, List.findSome?_eq_none_iff, Option.map_eq_none_iff] at h
  exact hr (h form hf (arrow, rest) (mem_cuts_iff.mpr ⟨hd, ht⟩))

/-- What is read behind a source is the longest arrow behind which a target can be read. -/
theorem arrowAndTarget?_eq_some (h : Edge.arrowAndTarget? text = some (arrow, label, target)) :
    ∃ form ∈ Edge.arrows, ∃ rest, form.Draws arrow ∧ trimStart text = arrow ++ rest ∧
      Edge.labelAndTarget? rest = some (label, target) ∧
      ∀ form' ∈ Edge.arrows, ∀ arrow' rest', form'.Draws arrow' → trimStart text = arrow' ++ rest' →
        Edge.labelAndTarget? rest' ≠ none → arrow'.length ≤ arrow.length := by
  obtain ⟨forms, form, forms', hforms, hsome, hbefore⟩ := List.findSome?_eq_some_iff.mp h
  obtain ⟨longer, ⟨arrow', rest⟩, shorter, hcuts, hread, hlonger⟩ := List.findSome?_eq_some_iff.mp hsome
  obtain ⟨⟨l, t⟩, hl, he⟩ := Option.map_eq_some_iff.mp hread
  cases he
  have hcut : (arrow, rest) ∈ form.cuts (trimStart text) := by
    rw [hcuts]
    exact List.mem_append_right _ List.mem_cons_self
  obtain ⟨hd, ht⟩ := mem_cuts_iff.mp hcut
  refine ⟨form, by rw [hforms]; simp, rest, hd, ht, hl, fun form' hf' b s hd' ht' hread' => ?_⟩
  have hcut' := mem_cuts_iff.mpr ⟨hd', ht'⟩
  have hno : (Edge.labelAndTarget? s).map (b, ·) ≠ none := fun hnone => hread' (Option.map_eq_none_iff.mp hnone)
  rw [hforms, List.mem_append, List.mem_cons] at hf'
  rcases hf' with hf' | rfl | hf'
  · exact absurd (List.findSome?_eq_none_iff.mp (hbefore form' hf') (b, s) hcut') hno
  · -- The same form: the arrows in front are longer, but no target stands behind them.
    have hsorted := pairwise_cuts form' (trimStart text)
    rw [hcuts] at hcut' hsorted
    rcases List.mem_append.mp hcut' with hm | hm
    · exact absurd (hlonger (b, s) hm) hno
    · rcases List.mem_cons.mp hm with he | hm
      · cases he
        exact Nat.le_refl _
      · exact Nat.le_of_lt (List.rel_of_pairwise_cons (List.pairwise_append.mp hsorted).2.1 hm)
  · -- A later form: its arrow does not go on where the one of an earlier form ends.
    rcases List.append_eq_append_iff.mp (ht.symm.trans ht') with ⟨m, hm, _⟩ | ⟨m, hm, _⟩
    · exact absurd ⟨m, hm.symm⟩ (hd.not_prefix hforms hf' hd')
    · rw [hm, List.length_append]
      exact Nat.le_add_right _ _

/-- Arrow, label and target make up what stands behind a source, with gaps before each of them. -/
theorem arrowAndTarget?_eq_append (h : IsTail text) (h' : Edge.arrowAndTarget? text = some (arrow, label, target)) :
    IsTight target ∧ IsLabelled label target ∧ (∃ form ∈ Edge.arrows, form.Draws arrow) ∧
      ∃ g0 g1 g2, IsGap g0 ∧ IsGap g1 ∧ IsGap g2 ∧
        text = g0 ++ arrow ++ g1 ++ Edge.labelText label ++ g2 ++ target := by
  obtain ⟨form, hf, rest, hd, ht, hl, _⟩ := arrowAndTarget?_eq_some h'
  have htail : IsTail rest := h.of_trimStart_eq ht
  obtain ⟨htight, g1, g2, hg1, hg2, hr⟩ := labelAndTarget?_eq_append htail hl
  obtain ⟨g0, hg0, ht0⟩ := exists_gap_trimStart text
  refine ⟨htight, isLabelled_of_labelAndTarget? htail hl, ⟨form, hf, hd⟩, g0, g1, g2, hg0, hg1, hg2, ?_⟩
  conv => lhs; rw [ht0, ht, hr]
  simp

/-- The arrow, the label and the target are read where single spaces stand around the arrow. -/
theorem arrowAndTarget?_spaced (hf : form ∈ Edge.arrows) (hd : form.Draws arrow) (ht : IsTight target)
    (hl : IsLabelled label target) :
    Edge.arrowAndTarget? (' ' :: arrow ++ (Edge.labelText label ++ ' ' :: target)) = some (arrow, label, target) := by
  have hread := labelAndTarget?_spaced ht hl
  have hhead : ∃ c t, Edge.labelText label ++ ' ' :: target = c :: t ∧ (isBlank c = true ∨ c = '|') := by
    cases label with
    | none => exact ⟨' ', target, rfl, Or.inl isBlank_space⟩
    | some l => exact ⟨'|', _, rfl, Or.inr rfl⟩
  generalize Edge.labelText label ++ ' ' :: target = behind at hread hhead ⊢
  have hstart : trimStart (' ' :: arrow ++ behind) = arrow ++ behind := by
    obtain ⟨c, t, hc⟩ := List.exists_cons_of_ne_nil (hd.ne_nil hf)
    rw [List.cons_append, trimStart_cons_of_blank isBlank_space, hc]
    exact trimStart_cons_of_not_blank (hd.letter hf (by rw [hc]; exact List.mem_cons_self)).1 _
  have hsome : Edge.labelAndTarget? behind ≠ none := by rw [hread]; exact Option.some_ne_none _
  obtain ⟨⟨arrow', label', target'⟩, hs⟩ := Option.ne_none_iff_exists'.mp (arrowAndTarget?_ne_none hf hd hstart hsome)
  obtain ⟨form', hf', rest, hd', ht', hread', hlongest⟩ := arrowAndTarget?_eq_some hs
  -- The arrow that is read ends at the space or the bar, and is no shorter.
  have hle := hlongest form hf arrow behind hd hstart hsome
  rw [hstart] at ht'
  obtain ⟨m, hm⟩ := hd'.within hf' hhead ht'
  rw [hm, List.length_append] at hle
  have hnil : m = [] := List.eq_nil_of_length_eq_zero (by omega)
  rw [hnil, List.append_nil] at hm
  rw [hm, List.append_cancel_left_eq] at ht'
  rw [← ht', hread] at hread'
  cases hread'
  rw [hs, hm]

/-- An arrow stays ahead where the blanks of a text change in a place that parts it or stands before a bar. -/
theorem ArrowAhead.respaced (h : ArrowAhead (x ++ (blanks ++ y))) (hb : IsGap blanks) (hg : IsGap gap)
    (hy : blanks ≠ [] ∨ y.head? = some '|') (hne : y ≠ []) : ArrowAhead (x ++ (gap ++ y)) := by
  obtain ⟨form, hf, arrow, rest, hd, ht, hrest⟩ := h
  by_cases hx : trimStart x = []
  · have hxg : IsGap x := trimStart_eq_nil_iff.mp hx
    rw [trimStart_gap_append hxg, trimStart_gap_append hb] at ht
    refine ⟨form, hf, arrow, rest, hd, ?_, hrest⟩
    rw [trimStart_gap_append hxg, trimStart_gap_append hg, ht]
  · rw [trimStart_append_of_ne_nil hx] at ht
    obtain ⟨m, hm⟩ := hd.within hf (exists_blank_or_bar hb hy) ht
    refine ⟨form, hf, arrow, m ++ (gap ++ y), hd, ?_, by simp [hne]⟩
    rw [trimStart_append_of_ne_nil hx, hm, List.append_assoc]

end Arrow

end DiagramText
