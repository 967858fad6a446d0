import DiagramText.Proofs.Edge.Respacing

/-!
# Arrows cut in two

An arrow stands in a run of arrow characters. Behind a source the run starts with the arrow that is read
(`Edge.last_source`), but it may go on behind that arrow: of an arrow without a target, or of a run that is longer than
the arrows there are, only a piece is read.

- `HasTarget` says when a target can be read behind an arrow, with or without a label (`labelAndTarget?_ne_none_iff`);
- the arrow that is read is the longest one with a target behind it (`isLongestArrow_of_arrowAndTarget?`), and there is
  only one such arrow (`IsLongestArrow.eq`);
- so the arrow is a whole run exactly where the longest arrow with a target is one (`Edge.arrow_whole_iff`).
-/

namespace DiagramText

open Text

/-! ## Targets -/

/-- A line stands in a text behind its blanks, up to the end of the text. -/
def HasLine (text : Text) : Prop :=
  ∃ gap line, IsGap gap ∧ line ≠ [] ∧ '\n' ∉ line ∧ text = gap ++ line

/-- A target can stand behind an arrow: there is a line, or a line behind a label between bars. -/
def HasTarget (text : Text) : Prop :=
  HasLine text ∨ ∃ gap label rest, IsGap gap ∧ '|' ∉ label ∧ text = gap ++ '|' :: label ++ '|' :: rest ∧ HasLine rest

section Targets

variable {text : Text}

theorem remainder?_ne_none_iff : remainder? text ≠ none ↔ HasLine text := by
  constructor
  · intro h
    cases hs : trimStart text with
    | nil =>
      have hgap := trimStart_eq_nil_iff.mp hs
      rcases List.eq_nil_or_concat text with rfl | ⟨gap, c, rfl⟩
      · exact absurd rfl h
      · rw [List.concat_eq_append] at *
        refine ⟨gap, [c], (isGap_append.mp hgap).1, List.cons_ne_nil c [], fun hn => h ?_, rfl⟩
        simp [remainder?, hs, hn]
    | cons c rest =>
      obtain ⟨gap, hg, ht⟩ := exists_gap_trimStart text
      refine ⟨gap, c :: rest, hg, List.cons_ne_nil c rest, fun hn => h ?_, hs ▸ ht⟩
      simp only [remainder?, hs, hn, or_true, if_true]
  · rintro ⟨gap, line, hg, hne, hn, rfl⟩ h
    have hlast : (gap ++ line).getLast? = some (line.getLast hne) := by
      rw [List.getLast?_append, List.getLast?_eq_some_getLast hne, Option.some_or]
    have hmem : '\n' ≠ line.getLast hne := fun he => hn (he ▸ List.getLast_mem hne)
    obtain ⟨gap', _, hline⟩ := exists_gap_trimStart line
    have hn' : '\n' ∉ trimStart line := fun hm => hn (hline ▸ List.mem_append_right gap' hm)
    rw [remainder?, trimStart_gap_append hg] at h
    cases hs : trimStart line with
    | nil => simp [hs, hlast, hmem] at h
    | cons c rest =>
      rw [hs] at hn'
      simp [hs, hn'] at h

/-- Label and target are read exactly where a target can stand. -/
theorem labelAndTarget?_ne_none_iff : Edge.labelAndTarget? text ≠ none ↔ HasTarget text := by
  have hbar : (∃ label rest, barLabel? (trimStart text) = some (label, rest) ∧ remainder? rest ≠ none) ↔
      ∃ gap label rest, IsGap gap ∧ '|' ∉ label ∧ text = gap ++ '|' :: label ++ '|' :: rest ∧ HasLine rest := by
    constructor
    · rintro ⟨label, rest, hb, hr⟩
      obtain ⟨gap, hg, ht⟩ := exists_gap_trimStart text
      obtain ⟨hs, hl⟩ := barLabel?_eq_some_iff.mp hb
      refine ⟨gap, label, rest, hg, hl, ?_, remainder?_ne_none_iff.mp hr⟩
      rw [List.append_assoc, ← hs]
      exact ht
    · rintro ⟨gap, label, rest, hg, hl, rfl, hr⟩
      refine ⟨label, rest, barLabel?_eq_some_iff.mpr ⟨?_, hl⟩, remainder?_ne_none_iff.mpr hr⟩
      rw [List.append_assoc, trimStart_gap_append hg]
      exact trimStart_cons_of_not_blank (by decide) _
  rw [HasTarget, ← hbar, ← remainder?_ne_none_iff]
  simp only [Edge.labelAndTarget?]
  cases hb : barLabel? (trimStart text) with
  | none => simp
  | some found =>
    obtain ⟨label, rest⟩ := found
    cases hr : remainder? rest with
    | none => simp [hr]
    | some target =>
      have hne : remainder? rest ≠ none := by rw [hr]; exact Option.some_ne_none _
      simp only [hr, Option.map_some]
      exact iff_of_true (Option.some_ne_none _) (Or.inr ⟨label, rest, rfl, hne⟩)

end Targets

/-! ## The longest arrow -/

/-- An arrow with a target behind it, while behind no longer arrow from the same place there is one. -/
structure IsLongestArrow (arrow rest : Text) : Prop where
  draws : ∃ form ∈ Edge.arrows, form.Draws arrow
  target : HasTarget rest
  longest : ∀ form ∈ Edge.arrows, ∀ arrow' rest', form.Draws arrow' → arrow ++ rest = arrow' ++ rest' →
    HasTarget rest' → arrow'.length ≤ arrow.length

/-- A text starts with an arrow that is a whole run of arrow characters: it is the longest one with a target behind it,
and neither a stroke nor a head follows it. -/
def StartsWithWholeArrow (text : Text) : Prop :=
  ∃ arrow rest, text = arrow ++ rest ∧ IsLongestArrow arrow rest ∧
    ∀ c, rest.head? = some c → c ∉ ['-', '=', '>']

section Longest

variable {text arrow arrow' rest rest' target : Text} {label : Option Text}

/-- There is one longest arrow at the start of a text. -/
theorem IsLongestArrow.eq (h : IsLongestArrow arrow rest) (h' : IsLongestArrow arrow' rest')
    (he : arrow ++ rest = arrow' ++ rest') : arrow = arrow' ∧ rest = rest' := by
  obtain ⟨form, hf, hd⟩ := h.draws
  obtain ⟨form', hf', hd'⟩ := h'.draws
  have hle := h.longest form' hf' arrow' rest' hd' he h'.target
  have hge := h'.longest form hf arrow rest hd he.symm h.target
  exact List.append_inj he (Nat.le_antisymm hge hle)

/-- The arrow that is read behind a source is the longest. -/
theorem isLongestArrow_of_arrowAndTarget? (h : Edge.arrowAndTarget? text = some (arrow, label, target)) :
    ∃ rest, trimStart text = arrow ++ rest ∧ IsLongestArrow arrow rest := by
  obtain ⟨form, hf, rest, hd, ht, hread, hlongest⟩ := arrowAndTarget?_eq_some h
  refine ⟨rest, ht, ⟨form, hf, hd⟩, labelAndTarget?_ne_none_iff.mp ?_, ?_⟩
  · rw [hread]
    exact Option.some_ne_none _
  · intro form' hf' arrow' rest' hd' he htarget
    exact hlongest form' hf' arrow' rest' hd' (ht.trans he) (labelAndTarget?_ne_none_iff.mpr htarget)

end Longest

/-! ## The run of an arrow -/

section Runs

variable {line : Text} {e : Edge}

/-- A source, with its shape, does not end in a character that an arrow could start with. -/
theorem Edge.last_source (he : Edge.ofText? line = some e) :
    ∀ c, e.source.getLast? = some c → c ∉ ['-', '=', '.', '<'] := by
  intro c hc
  obtain ⟨name, shape, rest, -, hsource, hlongest⟩ := Edge.ofText?_eq_some he
  rw [hsource, List.getLast?_append] at hc
  rcases shapeAndTarget?_cases hlongest.eq_some with ⟨rfl, _⟩ | ⟨opener, label, closer, behind, hs, _, hshape, _⟩
  · obtain ⟨-, d, hd, hq⟩ := hlongest.run
    rw [List.getLast?_nil, Option.none_or, hd, Option.some.injEq] at hc
    subst hc
    simp only [Edge.isSourceEnd, Bool.and_eq_true, bne_iff_ne, ne_eq] at hq
    simp [hq]
  · rw [hs, List.getLast?_append, List.getLast?_eq_some_getLast hshape.closer_ne_nil, Option.some_or, Option.some_or,
      Option.some.injEq] at hc
    have hmem : c ∈ closer := hc ▸ List.getLast_mem _
    cases hshape with
    | bracket _ _ _ hcl _ =>
      have hclose := hcl c hmem
      simp only [isCloser, Bool.or_eq_true, beq_iff_eq] at hclose
      rcases hclose with (rfl | rfl) | rfl <;> decide
    | angle _ =>
      have hangle : c = '>' := by simpa using hmem
      subst hangle
      decide

/-- **Where an arrow is cut.** The run of arrow characters in which an arrow is read starts with the arrow, and ends
with it exactly where the longest arrow with a target behind it is a whole run. -/
theorem Edge.arrow_whole_iff (he : Edge.ofText? line = some e) :
    ∃ gap rest, IsGap gap ∧ line = e.source ++ gap ++ (e.arrow ++ rest) ∧
      (∀ c, (e.source ++ gap).getLast? = some c → c ∉ ['-', '=', '.', '<']) ∧
      ((∀ c, rest.head? = some c → c ∉ ['-', '=', '>']) ↔ StartsWithWholeArrow (e.arrow ++ rest)) := by
  obtain ⟨name, shape, behind, hline, hsource, hlongest⟩ := Edge.ofText?_eq_some he
  obtain ⟨text, htext, hread⟩ := shapeAndTarget?_eq_append hlongest.eq_some
  obtain ⟨rest, hrest, harrow⟩ := isLongestArrow_of_arrowAndTarget? hread
  obtain ⟨gap, hg, ht⟩ := exists_gap_trimStart text
  refine ⟨gap, rest, hg, ?_, fun c hc => ?_, ?_⟩
  · rw [hline, htext, hsource, ← hrest, List.append_assoc, List.append_assoc, ← ht]
  · cases hgap : gap.getLast? with
    | none =>
      rw [List.getLast?_append, hgap, Option.none_or] at hc
      exact Edge.last_source he c hc
    | some d =>
      rw [List.getLast?_append, hgap, Option.some_or, Option.some.injEq] at hc
      have hblank := hg d (List.mem_of_getLast? hgap)
      rw [hc] at hblank
      rintro hm
      simp only [List.mem_cons, List.not_mem_nil, or_false] at hm
      rcases hm with rfl | rfl | rfl | rfl <;> cases hblank
  · constructor
    · intro hwhole
      exact ⟨e.arrow, rest, rfl, harrow, hwhole⟩
    · rintro ⟨arrow, rest', he', harrow', hwhole⟩
      obtain ⟨-, rfl⟩ := harrow.eq harrow' he'
      exact hwhole

/-- A long arrow between two nodes is a whole run. -/
theorem long_arrow_is_whole :
    Edge.ofText? "j---->k".toList = some ⟨"j".toList, "---->".toList, none, "k".toList⟩ ∧
      StartsWithWholeArrow "---->k".toList := by
  have hread : Edge.ofText? "j---->k".toList = some ⟨"j".toList, "---->".toList, none, "k".toList⟩ := by decide
  obtain ⟨gap, rest, hg, hline, -, hwhole⟩ := Edge.arrow_whole_iff hread
  refine ⟨hread, ?_⟩
  cases gap with
  | nil =>
    obtain rfl : "k".toList = rest := by simpa using hline
    exact hwhole.mp fun c hc => by
      cases hc
      decide
  | cons c gap =>
    have hc : '-' = c := (List.cons.inj (List.cons.inj hline).2).1
    have hblank := hg c List.mem_cons_self
    rw [← hc] at hblank
    cases hblank

/-- Of an arrow without a target the last character is taken for the target: a space comes to stand in the arrow. -/
theorem arrow_without_target_is_cut :
    Edge.ofText? "a-->".toList = some ⟨"a".toList, "--".toList, none, ">".toList⟩ ∧
      "a-->".toList = "a".toList ++ "--".toList ++ '>' :: [] ∧ normalizeEdge "a-->".toList = "a -- >".toList := by
  decide

end Runs

end DiagramText
