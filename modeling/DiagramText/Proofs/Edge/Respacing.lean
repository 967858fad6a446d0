import DiagramText.Proofs.Edge.Arrows
import DiagramText.Proofs.Text.Run

/-!
# Edges with mended spaces

- The parts of an edge statement, with gaps before the arrow, the label and the target, are the whole line
  (`Edge.ofText?_eq_spaced`), so mending the spaces of a line keeps all that is not blank (`dense_normalizeEdge`);
- `EdgeAhead` says when an edge can be read behind the name of a source. It does not depend on those gaps
  (`EdgeAhead.unspaced`), so a source that has become too long in the mended line was too long before;
- the parts behind the name of a source are read again where single spaces stand around the arrow (`AreParts.read`);
- hence the mended line is read as the same edge (`normalizeEdge_keeps_reading`).
-/

namespace DiagramText

open Text

/-! ## Behind the name of a source -/

/-- An arrow is ahead, directly or behind a shape. -/
def EdgeAhead (text : Text) : Prop :=
  ArrowAhead text ∨ ∃ opener label closer behind, text = opener ++ label ++ closer ++ behind ∧
    IsShape opener label closer behind ∧ ArrowAhead behind

section Behind

variable {text shape arrow target x y q gap blanks g0 g1 g2 : Text} {label : Option Text}

/-- A shape and an arrow are read exactly where an edge is ahead. -/
theorem shapeAndTarget?_eq_none_iff (h : IsTail text) : Edge.shapeAndTarget? text = none ↔ ¬EdgeAhead text := by
  have hplain : Edge.arrowAndTarget? text = none ↔ ¬ArrowAhead text := arrowAndTarget?_eq_none_iff h
  cases hs : (bracketShape? text).or (angleShape? text) with
  | none =>
    have hno : ¬∃ opener label closer behind, text = opener ++ label ++ closer ++ behind ∧
        IsShape opener label closer behind ∧ ArrowAhead behind := by
      rintro ⟨opener, label, closer, behind, ht, hshape, _⟩
      rw [shape?_eq_some_iff.mpr ⟨opener, label, closer, rfl, ht, hshape⟩] at hs
      cases hs
    simp only [Edge.shapeAndTarget?, hs, Option.map_eq_none_iff]
    rw [hplain, EdgeAhead, not_or]
    exact ⟨fun h => ⟨h, hno⟩, fun h => h.1⟩
  | some found =>
    obtain ⟨shape, behind⟩ := found
    obtain ⟨opener, label, closer, hshape, ht, hs'⟩ := shape?_eq_some_iff.mp hs
    have htail : IsTail behind := by
      rw [ht] at h
      exact h.of_append
    have hbehind : (∃ opener label closer behind, text = opener ++ label ++ closer ++ behind ∧
        IsShape opener label closer behind ∧ ArrowAhead behind) ↔ ArrowAhead behind := by
      constructor
      · rintro ⟨o, l, c, b, ht', hs'', hb⟩
        rw [shape?_eq_some_iff.mpr ⟨o, l, c, rfl, ht', hs''⟩] at hs
        cases hs
        exact hb
      · intro hb
        exact ⟨opener, label, closer, behind, by rw [ht, hshape], hs', hb⟩
    have hread := arrowAndTarget?_eq_none_iff htail
    rw [EdgeAhead, not_or, hbehind, ← hplain, ← hread]
    simp only [Edge.shapeAndTarget?, hs]
    cases hb : Edge.arrowAndTarget? behind with
    | none => simp
    | some _ => simp

/-- A shape may stand before the arrow. -/
theorem shapeAndTarget?_cases (h : Edge.shapeAndTarget? text = some (shape, arrow, label, target)) :
    (shape = [] ∧ Edge.arrowAndTarget? text = some (arrow, label, target)) ∨
    ∃ opener label' closer rest, shape = opener ++ label' ++ closer ∧ text = shape ++ rest ∧
      IsShape opener label' closer rest ∧ Edge.arrowAndTarget? rest = some (arrow, label, target) := by
  rw [Edge.shapeAndTarget?] at h
  split at h
  · next read hread =>
    cases h
    split at hread
    · next shape' rest hs =>
      obtain ⟨_, ha, he⟩ := Option.map_eq_some_iff.mp hread
      cases he
      obtain ⟨opener, label', closer, hshape, ht, hs'⟩ := shape?_eq_some_iff.mp hs
      exact Or.inr ⟨opener, label', closer, rest, hshape, ht, hs', ha⟩
    · cases hread
  · obtain ⟨_, ha, he⟩ := Option.map_eq_some_iff.mp h
    cases he
    exact Or.inl ⟨rfl, ha⟩

theorem shapeAndTarget?_eq_append (h : Edge.shapeAndTarget? text = some (shape, arrow, label, target)) :
    ∃ rest, text = shape ++ rest ∧ Edge.arrowAndTarget? rest = some (arrow, label, target) := by
  rcases shapeAndTarget?_cases h with ⟨rfl, hread⟩ | ⟨_, _, _, rest, _, ht, _, hread⟩
  · exact ⟨text, rfl, hread⟩
  · exact ⟨rest, ht, hread⟩

/-- The parts of an edge statement behind the name of its source: perhaps a shape, an arrow of the forms, and a target
with a label that is no part of it. -/
structure AreParts (shape arrow : Text) (label : Option Text) (target : Text) : Prop where
  shape : shape = [] ∨ ∃ opener label' closer, shape = opener ++ label' ++ closer ∧ IsShape opener label' closer []
  arrow : ∃ form ∈ Edge.arrows, form.Draws arrow
  label : IsLabelled label target
  target : IsTight target

theorem areParts_of_shapeAndTarget? (h : IsTail text)
    (h' : Edge.shapeAndTarget? text = some (shape, arrow, label, target)) : AreParts shape arrow label target := by
  rcases shapeAndTarget?_cases h' with ⟨rfl, hread⟩ | ⟨opener, label', closer, rest, hs, ht, hshape, hread⟩
  · obtain ⟨htight, hlabel, hform, _⟩ := arrowAndTarget?_eq_append h hread
    exact ⟨Or.inl rfl, hform, hlabel, htight⟩
  · rw [ht] at h
    obtain ⟨htight, hlabel, hform, _⟩ := arrowAndTarget?_eq_append h.of_append hread
    exact ⟨Or.inr ⟨opener, label', closer, hs, hshape.followed fun _ _ _ hb => by cases hb⟩, hform, hlabel, htight⟩

/-- The parts are read where single spaces stand around the arrow. -/
theorem AreParts.read (h : AreParts shape arrow label target) :
    Edge.shapeAndTarget? (shape ++ (' ' :: arrow ++ (Edge.labelText label ++ ' ' :: target))) =
      some (shape, arrow, label, target) := by
  obtain ⟨form, hf, hd⟩ := h.arrow
  have hread := arrowAndTarget?_spaced hf hd h.target h.label
  generalize hbehind : ' ' :: arrow ++ (Edge.labelText label ++ ' ' :: target) = behind at hread ⊢
  rcases h.shape with rfl | ⟨opener, label', closer, hs, hshape⟩
  · -- A blank starts no shape.
    have hno : (bracketShape? behind).or (angleShape? behind) = none := by
      rw [← hbehind]
      rfl
    rw [List.nil_append]
    simp only [Edge.shapeAndTarget?, hno, hread, Option.map_some]
  · have hhead : ∀ b, behind.head? = some b → isCloser b = false := by
      intro b hb
      rw [← hbehind] at hb
      cases hb
      decide
    have hnow : (bracketShape? (shape ++ behind)).or (angleShape? (shape ++ behind)) = some (shape, behind) :=
      shape?_eq_some_iff.mpr ⟨opener, label', closer, hs, rfl,
        hshape.followed fun _ b _ hb => Or.inr (Or.inl (hhead b hb))⟩
    simp only [Edge.shapeAndTarget?, hnow, hread, Option.map_some]

/-- An edge stays ahead where the blanks of a text change in a place that parts it or stands before a bar, and that is
not between two closers. -/
theorem EdgeAhead.respaced (h : EdgeAhead (x ++ (blanks ++ y))) (hb : IsGap blanks) (hg : IsGap gap)
    (hy : blanks ≠ [] ∨ y.head? = some '|') (hne : y ≠ [])
    (hxy : ∀ a b, x.getLast? = some a → y.head? = some b → isCloser a = false ∨ isCloser b = false) :
    EdgeAhead (x ++ (gap ++ y)) := by
  rcases h with h | ⟨opener, label, closer, behind, he, hshape, hahead⟩
  · exact Or.inl (h.respaced hb hg hy hne)
  · rcases shape_respaced hb hg hy hxy hshape he with ⟨z, hx, hbehind, hshape'⟩ | ⟨label', hshape', he'⟩
    · refine Or.inr ⟨opener, label, closer, z ++ (gap ++ y), by rw [hx]; simp, hshape', ?_⟩
      rw [hbehind] at hahead
      exact hahead.respaced hb hg hy hne
    · exact Or.inr ⟨opener, label', closer, behind, he', hshape', hahead⟩

/-- An edge that is ahead in the mended line is so with any gaps in the places of its spaces. -/
theorem EdgeAhead.unspaced {form : ArrowForm} (hf : form ∈ Edge.arrows) (hd : form.Draws arrow) (ht : target ≠ [])
    (hg0 : IsGap g0) (hg1 : IsGap g1) (hg2 : IsGap g2)
    (h : EdgeAhead (q ++ (' ' :: arrow ++ (Edge.labelText label ++ ' ' :: target)))) :
    EdgeAhead (q ++ (g0 ++ arrow ++ g1 ++ Edge.labelText label ++ g2 ++ target)) := by
  have hsp : [' '] ≠ [] ∨ (arrow ++ (Edge.labelText label ++ ' ' :: target)).head? = some '|' := Or.inl (by simp)
  obtain ⟨a, arrow', harrow⟩ := List.exists_cons_of_ne_nil (hd.ne_nil hf)
  have hlast : ∀ (x : Text) b, (x ++ arrow).getLast? = some b → isCloser b = false := by
    intro x b hb
    rw [List.getLast?_append, List.getLast?_eq_some_getLast (hd.ne_nil hf), Option.some_or, Option.some.injEq] at hb
    exact (hd.letter hf (hb ▸ List.getLast_mem _)).2.2
  have h0 : EdgeAhead (q ++ ([' '] ++ (arrow ++ (Edge.labelText label ++ ' ' :: target)))) := h
  have h1 : EdgeAhead (q ++ (g0 ++ (arrow ++ (Edge.labelText label ++ ' ' :: target)))) := by
    refine h0.respaced isGap_space hg0 hsp (by simp [harrow]) fun _ b _ hb => Or.inr ?_
    rw [harrow] at hb
    cases hb
    exact (hd.letter hf (by rw [harrow]; exact List.mem_cons_self)).2.2
  cases label with
  | none =>
    have h2 : EdgeAhead (q ++ g0 ++ arrow ++ ([' '] ++ target)) := by simpa [Edge.labelText] using h1
    have h3 := h2.respaced isGap_space (isGap_append.mpr ⟨hg1, hg2⟩) (Or.inl (by simp)) ht
      fun b _ hb _ => Or.inl (hlast _ b hb)
    simpa [Edge.labelText] using h3
  | some l =>
    have h2 : EdgeAhead (q ++ g0 ++ arrow ++ ([] ++ ('|' :: l ++ '|' :: ' ' :: target))) := by
      simpa [Edge.labelText] using h1
    have h3 := h2.respaced isGap_nil hg1 (Or.inr rfl) (by simp) fun b _ hb _ => Or.inl (hlast _ b hb)
    have h4 : EdgeAhead ((q ++ g0 ++ arrow ++ g1 ++ '|' :: l ++ ['|']) ++ ([' '] ++ target)) := by simpa using h3
    have h5 := h4.respaced isGap_space hg2 (Or.inl (by simp)) ht fun b _ hb _ => Or.inl (by
      rw [List.getLast?_append] at hb
      cases hb
      decide)
    simpa [Edge.labelText] using h5

end Behind

/-! ## Edge statements -/

/-- An edge statement with given gaps before its arrow, its label and its target. -/
def Edge.spaced (e : Edge) (g0 g1 g2 : Text) : Text :=
  e.source ++ g0 ++ e.arrow ++ g1 ++ Edge.labelText e.label ++ g2 ++ e.target

section Statements

variable {line : Text} {e : Edge}

/-- A line is read as the edge whose source has the longest name behind which an edge is ahead. -/
theorem Edge.ofText?_eq_some (h : Edge.ofText? line = some e) :
    ∃ name shape rest, line = name ++ rest ∧ e.source = name ++ shape ∧
      IsLongestRun Edge.isSourceCharacter Edge.isSourceEnd Edge.shapeAndTarget? name rest
        (shape, e.arrow, e.label, e.target) := by
  obtain ⟨⟨name, shape, arrow, label, target⟩, hread, he⟩ := Option.map_eq_some_iff.mp h
  obtain ⟨rest, ht, hlongest⟩ := longestRun_eq_some_iff.mp hread
  subst he
  exact ⟨name, shape, rest, ht, rfl, hlongest⟩

theorem Edge.ofText?_of_isLongestRun {name shape rest arrow target : Text} {label : Option Text}
    (h : IsLongestRun Edge.isSourceCharacter Edge.isSourceEnd Edge.shapeAndTarget? name rest
      (shape, arrow, label, target)) : Edge.ofText? (name ++ rest) = some ⟨name ++ shape, arrow, label, target⟩ := by
  rw [Edge.ofText?, longestRun_eq_some_iff.mpr ⟨rest, rfl, h⟩, Option.map_some]

/-- The parts of an edge statement make up its line, with gaps between them. -/
theorem Edge.ofText?_eq_spaced (h : IsTail line) (he : Edge.ofText? line = some e) :
    IsTight e.target ∧ (∃ form ∈ Edge.arrows, form.Draws e.arrow) ∧
      ∃ g0 g1 g2, IsGap g0 ∧ IsGap g1 ∧ IsGap g2 ∧ line = e.spaced g0 g1 g2 := by
  obtain ⟨name, shape, rest, rfl, hsource, hlongest⟩ := Edge.ofText?_eq_some he
  obtain ⟨rest', rfl, hread⟩ := shapeAndTarget?_eq_append hlongest.eq_some
  obtain ⟨htight, _, hform, g0, g1, g2, hg0, hg1, hg2, hr⟩ := arrowAndTarget?_eq_append h.of_append.of_append hread
  refine ⟨htight, hform, g0, g1, g2, hg0, hg1, hg2, ?_⟩
  rw [Edge.spaced, hsource, hr]
  simp

/-- A line without strokes is no edge statement. -/
theorem Edge.ofText?_eq_none (h : IsTail line) (hdash : '-' ∉ line) (hequals : '=' ∉ line) :
    Edge.ofText? line = none := by
  refine Option.eq_none_iff_forall_ne_some.mpr fun e he => ?_
  obtain ⟨-, ⟨form, hf, hd⟩, g0, g1, g2, -, -, -, hline⟩ := Edge.ofText?_eq_spaced h he
  have hmem : ∀ c ∈ e.arrow, c ∈ line := by
    intro c hc
    rw [hline, Edge.spaced]
    simp [hc]
  exact (hd.stroke hf).elim (hdash ∘ hmem _) (hequals ∘ hmem _)

theorem Edge.toText_eq_spaced (e : Edge) : e.toText = e.spaced [' '] [] [' '] := by
  simp [Edge.toText, Edge.spaced]

/-- An edge statement with mended spaces is a tail. -/
theorem Edge.isTail_toText (h : IsTail line) (he : Edge.ofText? line = some e) : IsTail e.toText := by
  obtain ⟨htight, _, g0, g1, g2, _, _, _, rfl⟩ := Edge.ofText?_eq_spaced h he
  have hn := h.newline
  rw [Edge.toText_eq_spaced]
  refine htight.toIsTail.append htight.ne_nil ?_
  simp only [Edge.spaced, List.mem_append, not_or] at hn
  simp [hn]

/-- **Mending the spaces of an edge statement keeps the edge.** -/
theorem Edge.ofText?_toText (h : IsTail line) (he : Edge.ofText? line = some e) : Edge.ofText? e.toText = some e := by
  obtain ⟨name, shape, rest, rfl, hsource, hlongest⟩ := Edge.ofText?_eq_some he
  obtain ⟨rest', rfl, hread⟩ := shapeAndTarget?_eq_append hlongest.eq_some
  obtain ⟨htight, _, ⟨form, hf, hd⟩, g0, g1, g2, hg0, hg1, hg2, hr⟩ :=
    arrowAndTarget?_eq_append h.of_append.of_append hread
  have htext : e.toText = name ++ (shape ++ (' ' :: e.arrow ++ (Edge.labelText e.label ++ ' ' :: e.target))) := by
    rw [Edge.toText, hsource]
    simp
  have htail := Edge.isTail_toText h he
  rw [htext] at htail ⊢
  have hagain := (areParts_of_shapeAndTarget? h.of_append hlongest.eq_some).read
  have hrun : IsLongestRun Edge.isSourceCharacter Edge.isSourceEnd Edge.shapeAndTarget? name
      (shape ++ (' ' :: e.arrow ++ (Edge.labelText e.label ++ ' ' :: e.target)))
      (shape, e.arrow, e.label, e.target) := by
    refine ⟨hlongest.run, hagain, fun more rest hmore hends => ?_⟩
    -- A longer name ends within the shape, so it was there in the old line too.
    have hblank : ' ' ∉ more := fun hm => by
      have := List.all_eq_true.mp hends.1 ' ' hm
      cases this
    obtain ⟨q, rfl, rfl⟩ := exists_append_of_not_mem hmore.symm ⟨' ', _, rfl, hblank⟩
    refine (shapeAndTarget?_eq_none_iff ?_).mpr fun hahead => ?_
    · rw [List.append_assoc] at htail
      exact htail.of_append.of_append
    · have hold := hlongest.longest more _ (List.append_assoc ..) hends
      rw [hr] at hold
      refine (shapeAndTarget?_eq_none_iff ?_).mp hold (hahead.unspaced hf hd htight.ne_nil hg0 hg1 hg2)
      rw [List.append_assoc, hr] at h
      exact h.of_append.of_append
  rw [Edge.ofText?_of_isLongestRun hrun, ← hsource]

end Statements

/-! ## Mended lines -/

section Mended

variable {line : Text}

/-- Mending the spaces of a line keeps all that is not blank. -/
theorem dense_normalizeEdge (h : IsTail line) : dense (normalizeEdge line) = dense line := by
  unfold normalizeEdge
  split
  · next e he =>
    obtain ⟨_, _, g0, g1, g2, hg0, hg1, hg2, rfl⟩ := Edge.ofText?_eq_spaced h he
    rw [Edge.toText_eq_spaced]
    simp only [Edge.spaced, dense_append, dense_gap hg0, dense_gap hg1, dense_gap hg2, dense_gap isGap_space, dense_nil]
  · rfl

theorem normalizeEdge_normalizeEdge (h : IsTail line) : normalizeEdge (normalizeEdge line) = normalizeEdge line := by
  cases he : Edge.ofText? line with
  | none => simp only [normalizeEdge, he]
  | some e => simp only [normalizeEdge, he, Edge.ofText?_toText h he]

/-- The name of a source starts with a character that is not blank. -/
theorem Edge.exists_source {e : Edge} (he : Edge.ofText? line = some e) :
    ∃ c rest, e.source = c :: rest ∧ isBlank c = false ∧ ∃ s, line = e.source ++ s := by
  obtain ⟨name, shape, rest, rfl, hsource, hlongest⟩ := Edge.ofText?_eq_some he
  obtain ⟨rest', rfl, _⟩ := shapeAndTarget?_eq_append hlongest.eq_some
  obtain ⟨c, name', rfl⟩ := List.exists_cons_of_ne_nil hlongest.run.ne_nil
  refine ⟨c, name' ++ shape, hsource, ?_, rest', by rw [hsource, List.append_assoc]⟩
  have := hlongest.run.head
  simp only [Edge.isSourceCharacter, Bool.and_eq_true, Bool.not_eq_true'] at this
  exact this.1

theorem isTight_normalizeEdge (h : IsTight line) : IsTight (normalizeEdge line) := by
  unfold normalizeEdge
  split
  · next e he =>
    obtain ⟨c, rest, hc, hb, _⟩ := Edge.exists_source he
    refine ⟨Edge.isTail_toText h.toIsTail he, c, rest ++ ' ' :: e.arrow ++ Edge.labelText e.label ++ ' ' :: e.target,
      ?_, hb⟩
    rw [Edge.toText, hc]
    simp
  · exact h

/-- **Mending the spaces of a line keeps its reading.** The parts of an edge statement make up the line with gaps
between them and the mended line with single spaces, and the mended line is read as the same parts. Any other line stays
as it is, so to mend a line twice is to mend it once. -/
theorem normalizeEdge_keeps_reading (h : IsTail line) :
    (∀ e, Edge.ofText? line = some e →
      IsTight e.target ∧ (∃ g0 g1 g2, IsGap g0 ∧ IsGap g1 ∧ IsGap g2 ∧ line = e.spaced g0 g1 g2) ∧
        normalizeEdge line = e.spaced [' '] [] [' '] ∧ Edge.ofText? (normalizeEdge line) = some e) ∧
      (Edge.ofText? line = none → normalizeEdge line = line) ∧
      normalizeEdge (normalizeEdge line) = normalizeEdge line := by
  refine ⟨fun e he => ?_, fun hnone => ?_, normalizeEdge_normalizeEdge h⟩
  · obtain ⟨htight, _, hspaced⟩ := Edge.ofText?_eq_spaced h he
    have hmended : normalizeEdge line = e.toText := by simp only [normalizeEdge, he]
    refine ⟨htight, hspaced, hmended.trans e.toText_eq_spaced, ?_⟩
    rw [hmended]
    exact Edge.ofText?_toText h he
  · simp only [normalizeEdge, hnone]

/-- A source with a shape, an arrow in its label and a second arrow are read again behind the mended spaces. -/
theorem chained_edge_read_again :
    Edge.ofText? (normalizeEdge "db[x-->y]-->b==>  |a-->b| c --> d".toList) =
      some ⟨"db[x-->y]-->b".toList, "==>".toList, some "a-->b".toList, "c --> d".toList⟩ := by
  have htail : IsTail "db[x-->y]-->b==>  |a-->b| c --> d".toList :=
    ⟨by decide, fun c hc => by
      cases hc
      decide⟩
  exact ((normalizeEdge_keeps_reading htail).1 _ (by decide +kernel)).2.2.2

end Mended

end DiagramText
