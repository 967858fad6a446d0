import DiagramText.Edge
import DiagramText.Ends
import DiagramText.Proofs.Shape
import DiagramText.Proofs.Text.Run
import DiagramText.Proofs.Text.Word

/-!
# The ends of an edge

What the ends of an edge are is told by the parts of its line alone:

- a target has a name and perhaps a shape, and neither goes on in what follows (`Ends.IsTarget`);
- an arrow of those that can be swapped joins the ends, perhaps with a label between bars (`Ends.IsJoint`);
- a source has the longest name behind which, and behind its shape, a joint and the start of a target stand
  (`Ends.EdgeBehind`);
- an edge is read exactly where its parts are these (`Ends.ofEdge?_eq_some_iff`), and none is read where no name of a
  source is in the line (`Ends.ofEdge?_eq_none_iff`).

What stands at the start of a text tells whether a target is ahead of it (`targetAhead_iff`).
-/

namespace DiagramText

open Text

variable {text shape target between behind rest line : Text} {e : Ends}

/-! ## Shapes -/

namespace Ends

/-- What is taken for the shape in front of a text: a shape in brackets, or nothing where no such shape starts it. -/
def IsLeadingShape (shape behind : Text) : Prop :=
  (∃ c label closer, shape = [c] ++ label ++ closer ∧ IsShape [c] label closer behind) ∨
    shape = [] ∧ ∀ c label closer rest, behind = [c] ++ label ++ closer ++ rest → ¬IsShape [c] label closer rest

/-- The shape in brackets that a text starts with, empty where there is none, and what follows it. -/
def leadingShape (text : Text) : Text × Text :=
  (bracketShape? text).getD ([], text)

end Ends

section Shapes

theorem bracketShape?_eq_some_iff : bracketShape? text = some (shape, rest) ↔
    ∃ c label closer, shape = [c] ++ label ++ closer ∧ text = shape ++ rest ∧ IsShape [c] label closer rest := by
  constructor
  · intro h
    obtain ⟨opener, label, closer, hshape, ht, hs⟩ := isShape_of_bracketShape? h
    cases hs with
    | bracket ho hl hne hcl hb => exact ⟨_, label, closer, hshape, ht, IsShape.bracket ho hl hne hcl hb⟩
    | angle _ =>
      rw [ht, hshape] at h
      cases h
  · rintro ⟨c, label, closer, rfl, rfl, h⟩
    cases h with
    | bracket ho hl hne hcl hb => exact bracketShape?_of_isShape ho hl hne hcl hb

theorem leadingShape_eq_iff : Ends.leadingShape text = (shape, behind) ↔
    text = shape ++ behind ∧ Ends.IsLeadingShape shape behind := by
  rw [Ends.leadingShape]
  cases hb : bracketShape? text with
  | none =>
    have hno : ∀ c label closer rest, text = [c] ++ label ++ closer ++ rest → ¬IsShape [c] label closer rest := by
      intro c label closer rest ht hs
      rw [bracketShape?_eq_some_iff.mpr ⟨c, label, closer, rfl, ht, hs⟩] at hb
      cases hb
    constructor
    · intro h
      cases h
      exact ⟨rfl, Or.inr ⟨rfl, hno⟩⟩
    · rintro ⟨ht, ⟨c, label, closer, hshape, hs⟩ | ⟨rfl, _⟩⟩
      · exact absurd hs (hno c label closer behind (hshape ▸ ht))
      · rw [ht]
        rfl
  | some found =>
    obtain ⟨shape', behind'⟩ := found
    obtain ⟨c, label, closer, hshape, ht, hs⟩ := bracketShape?_eq_some_iff.mp hb
    constructor
    · intro h
      cases h
      exact ⟨ht, Or.inl ⟨c, label, closer, hshape, hs⟩⟩
    · rintro ⟨ht', ⟨c', label', closer', hshape', hs'⟩ | ⟨rfl, hno⟩⟩
      · rw [bracketShape?_eq_some_iff.mpr ⟨c', label', closer', hshape', ht', hs'⟩] at hb
        cases hb
        rfl
      · exact absurd hs (hno c label closer behind' (by rw [← hshape, ← ht, ht', List.nil_append]))

/-- No shape starts a text that does not start with an opener. -/
theorem isLeadingShape_nil (h : ∀ c, behind.head? = some c → isOpener c = false) : Ends.IsLeadingShape [] behind := by
  refine Or.inr ⟨rfl, fun c label closer rest hb hs => ?_⟩
  have hc := h c (by rw [hb]; rfl)
  cases hs with
  | bracket ho _ _ _ _ =>
    rw [hc] at ho
    cases ho

/-- A leading shape is empty or starts with an opener. -/
theorem Ends.IsLeadingShape.head (h : Ends.IsLeadingShape shape behind) :
    shape = [] ∨ ∃ c rest, shape = c :: rest ∧ isOpener c = true := by
  rcases h with ⟨c, label, closer, rfl, hs⟩ | ⟨rfl, _⟩
  · cases hs with
    | bracket ho _ _ _ _ => exact Or.inr ⟨c, label ++ closer, rfl, ho⟩
  · exact Or.inl rfl

/-- A leading shape stays one in front of a text that starts with neither an opener nor a closer. -/
theorem Ends.IsLeadingShape.of_head (h : Ends.IsLeadingShape shape behind)
    (hr : ∀ c, rest.head? = some c → isOpener c = false ∧ isCloser c = false) : Ends.IsLeadingShape shape rest := by
  rcases h with ⟨c, label, closer, rfl, hs⟩ | ⟨rfl, -⟩
  · exact Or.inl ⟨c, label, closer, rfl, hs.followed fun _ b _ hb => Or.inr (Or.inl (hr b hb).2)⟩
  · exact isLeadingShape_nil fun c hc => (hr c hc).1

end Shapes

/-! ## Targets -/

namespace Ends

/-- The target of an edge in front of a text: a name and perhaps a shape. Neither goes on in the text. -/
def IsTarget (target behind : Text) : Prop :=
  ∃ c name shape, target = c :: name ++ shape ∧ isTargetStart c = true ∧ (∀ d ∈ name, isTargetCharacter d = true) ∧
    (∀ d, (shape ++ behind).head? = some d → isTargetCharacter d = false) ∧ IsLeadingShape shape behind

end Ends

section Targets

theorem isTargetCharacter_of_start {c : Char} (h : Ends.isTargetStart c = true) :
    Ends.isTargetCharacter c = true := by
  simp only [Ends.isTargetStart, Bool.and_eq_true] at h
  exact h.1.1

theorem isBlank_of_isTargetCharacter {c : Char} (h : Ends.isTargetCharacter c = true) : isBlank c = false := by
  simp only [Ends.isTargetCharacter, Bool.and_eq_true, Bool.not_eq_true'] at h
  exact h.1.1.1

/-- The name of a target goes as far as it can, and a shape follows it where one starts there. -/
theorem edgeTarget?_cons {c : Char} (hc : Ends.isTargetStart c = true) (hn : '\n' ∉ rest)
    (h : Ends.leadingShape (rest.dropWhile Ends.isTargetCharacter) = (shape, behind)) :
    Ends.edgeTarget? (c :: rest) = some (c :: rest.takeWhile Ends.isTargetCharacter ++ shape, behind) := by
  have hsplit : rest = rest.takeWhile Ends.isTargetCharacter ++ rest.dropWhile Ends.isTargetCharacter :=
    List.takeWhile_append_dropWhile.symm
  have hbehind : '\n' ∉ behind := by
    rw [hsplit, (leadingShape_eq_iff.mp h).1] at hn
    simp only [List.mem_append, not_or] at hn
    exact hn.2.2
  rw [Ends.leadingShape] at h
  rw [Ends.edgeTarget?, if_pos hc]
  cases hb : bracketShape? (rest.dropWhile Ends.isTargetCharacter) with
  | none =>
    rw [hb] at h
    cases h
    simp [hb, hbehind]
  | some found =>
    rw [hb] at h
    cases h
    simp [hb, hbehind]

theorem edgeTarget?_eq_some_iff (hn : '\n' ∉ text) :
    Ends.edgeTarget? text = some (target, behind) ↔ text = target ++ behind ∧ Ends.IsTarget target behind := by
  cases text with
  | nil =>
    refine iff_of_false (fun h => by cases h) ?_
    rintro ⟨ht, c, name, shape, rfl, _⟩
    cases ht
  | cons c rest =>
    rw [List.mem_cons, not_or] at hn
    constructor
    · intro h
      have hc : Ends.isTargetStart c = true := by
        refine Classical.byContradiction fun hc => ?_
        rw [Ends.edgeTarget?, if_neg hc] at h
        cases h
      obtain ⟨shape, behind', hlead⟩ : ∃ shape behind',
        Ends.leadingShape (rest.dropWhile Ends.isTargetCharacter) = (shape, behind') := ⟨_, _, rfl⟩
      rw [edgeTarget?_cons hc hn.2 hlead] at h
      cases h
      obtain ⟨ht, hshape⟩ := leadingShape_eq_iff.mp hlead
      refine ⟨?_, c, _, shape, rfl, hc, fun d hd => mem_takeWhile hd, fun d hd => ?_, hshape⟩
      · rw [List.append_assoc, List.cons_append, ← ht, List.takeWhile_append_dropWhile]
      · rw [← ht] at hd
        obtain ⟨t, ht⟩ := List.head?_eq_some_iff.mp hd
        exact head_dropWhile ht
    · rintro ⟨ht, c', name, shape, rfl, hc, hname, hhead, hlead⟩
      rw [List.append_assoc, List.cons_append] at ht
      obtain ⟨rfl, rfl⟩ := List.cons.inj ht
      have hread : Ends.leadingShape ((name ++ (shape ++ behind)).dropWhile Ends.isTargetCharacter) =
          (shape, behind) := by
        rw [dropWhile_append_of_head hname hhead]
        exact leadingShape_eq_iff.mpr ⟨rfl, hlead⟩
      rw [edgeTarget?_cons hc hn.2 hread, takeWhile_append_of_head hname hhead]

/-- A target starts with a character that is no blank and no bar. -/
theorem Ends.IsTarget.head (h : Ends.IsTarget target behind) : ∃ c rest, target = c :: rest ∧
    Ends.isTargetStart c = true := by
  obtain ⟨c, name, shape, rfl, hc, _⟩ := h
  exact ⟨c, name ++ shape, rfl, hc⟩

/-- A target can be read where one can start. -/
theorem edgeTarget?_ne_none_iff (hn : '\n' ∉ text) :
    Ends.edgeTarget? text ≠ none ↔ ∃ c rest, text = c :: rest ∧ Ends.isTargetStart c = true := by
  constructor
  · intro h
    obtain ⟨⟨target, behind⟩, h⟩ := Option.ne_none_iff_exists'.mp h
    obtain ⟨rfl, ht⟩ := (edgeTarget?_eq_some_iff hn).mp h
    obtain ⟨c, rest, rfl, hc⟩ := ht.head
    exact ⟨c, rest ++ behind, rfl, hc⟩
  · rintro ⟨c, rest, rfl, hc⟩
    rw [List.mem_cons, not_or] at hn
    rw [edgeTarget?_cons hc hn.2 rfl]
    exact Option.some_ne_none _

end Targets

/-! ## Joints -/

namespace Ends

/-- What joins the ends of an edge: an arrow with gaps around it, perhaps with a label between bars. -/
def IsJoint (between : Text) : Prop :=
  ∃ gap arrow label gap', IsGap gap ∧ arrow ∈ edgeArrows ∧ (∀ l ∈ label, '|' ∉ l) ∧ IsGap gap' ∧
    between = gap ++ arrow ++ Edge.labelText label ++ gap'

/-- A joint and the start of a target stand in front of a text. -/
def TargetAhead (text : Text) : Prop :=
  ∃ between c rest, IsJoint between ∧ isTargetStart c = true ∧ text = between ++ c :: rest

/-- The start of a target stands in front of a text, perhaps behind a label between bars and a gap. -/
def TargetBehindArrow (text : Text) : Prop :=
  ∃ label gap c rest, (∀ l ∈ label, '|' ∉ l) ∧ IsGap gap ∧ isTargetStart c = true ∧
    text = Edge.labelText label ++ gap ++ c :: rest

end Ends

section Joints

variable {arrow gap g : Text} {label : Option Text}

/-- No arrow of an edge whose ends can be swapped starts another one. -/
theorem pairwise_edgeArrows : Ends.edgeArrows.Pairwise fun v w => ¬v <+: w := by
  decide

theorem edgeArrow_eq_of_start {arrow' : Text} (ha : arrow ∈ Ends.edgeArrows) (ha' : arrow' ∈ Ends.edgeArrows)
    (h : arrow <+: arrow') : arrow = arrow' := by
  have hall : ∀ arrow ∈ Ends.edgeArrows, ∀ arrow' ∈ Ends.edgeArrows, arrow <+: arrow' → arrow = arrow' := by decide
  exact hall arrow ha arrow' ha' h

/-- An arrow of an edge starts with a character that is neither blank nor an opener. -/
theorem edgeArrow_head (h : arrow ∈ Ends.edgeArrows) :
    ∃ c t, arrow = c :: t ∧ isBlank c = false ∧ isOpener c = false := by
  have hall : ∀ arrow ∈ Ends.edgeArrows, (arrow.head?.any fun c => !isBlank c && !isOpener c) = true := by decide
  obtain ⟨c, hc, hno⟩ := (Option.any_eq_true _ _).mp (hall arrow h)
  obtain ⟨t, rfl⟩ := List.head?_eq_some_iff.mp hc
  exact ⟨c, t, rfl, by simpa using hno⟩

theorem trimStart_edgeArrow (hg : IsGap gap) (ha : arrow ∈ Ends.edgeArrows) (rest : Text) :
    trimStart (gap ++ (arrow ++ rest)) = arrow ++ rest ∧ indentation (gap ++ (arrow ++ rest)) = gap := by
  obtain ⟨c, t, harrow, hc, _⟩ := edgeArrow_head ha
  exact trimStart_indentation_of_first hg ⟨c, t, harrow, hc⟩ rest

/-- An arrow of an edge starts with a stroke, or with a tail and a dash. -/
theorem edgeArrow_start (h : arrow ∈ Ends.edgeArrows) :
    ∃ c t, arrow = c :: t ∧ (c ∈ ['-', '='] ∨ t.head? = some '-') := by
  have hall : ∀ arrow ∈ Ends.edgeArrows,
      arrow.head? ∈ ['-', '='].map some ∨ arrow.tail.head? = some '-' := by decide
  obtain ⟨c, t, rfl, -⟩ := edgeArrow_head h
  exact ⟨c, t, rfl, (hall _ h).imp_left fun hc => by simpa using hc⟩

theorem edgeArrow_stroke (h : arrow ∈ Ends.edgeArrows) : '-' ∈ arrow ∨ '=' ∈ arrow := by
  have hall : ∀ arrow ∈ Ends.edgeArrows, '-' ∈ arrow ∨ '=' ∈ arrow := by decide
  exact hall arrow h

/-- A text starts with its label, or with a character other than a bar. -/
theorem edgeLabel_labelText (hl : ∀ l ∈ label, '|' ∉ l) (hr : rest.head? ≠ some '|') :
    Ends.edgeLabel (Edge.labelText label ++ rest) = (Edge.labelText label, rest) := by
  cases label with
  | none =>
    have hb : barLabel? rest = none := by
      refine Option.eq_none_iff_forall_ne_some.mpr fun ⟨l, behind⟩ hb => hr ?_
      rw [(barLabel?_eq_some_iff.mp hb).1]
      rfl
    rw [Edge.labelText, List.nil_append, Ends.edgeLabel, hb]
  | some l =>
    have hb : barLabel? ('|' :: l ++ '|' :: rest) = some (l, rest) :=
      barLabel?_eq_some_iff.mpr ⟨rfl, hl l rfl⟩
    have htext : Edge.labelText (some l) ++ rest = '|' :: l ++ '|' :: rest := by simp [Edge.labelText]
    rw [htext, Ends.edgeLabel, hb]
    rfl

theorem exists_edgeLabel (text : Text) : ∃ label rest, Ends.edgeLabel text = (Edge.labelText label, rest) ∧
    (∀ l ∈ label, '|' ∉ l) ∧ text = Edge.labelText label ++ rest := by
  rw [Ends.edgeLabel]
  cases hb : barLabel? text with
  | none => exact ⟨none, text, rfl, fun l hl => (by cases hl), rfl⟩
  | some found =>
    obtain ⟨l, rest⟩ := found
    obtain ⟨ht, hl⟩ := barLabel?_eq_some_iff.mp hb
    refine ⟨some l, rest, rfl, fun l' hl' => ?_, by rw [ht]; simp [Edge.labelText]⟩
    cases hl'
    exact hl

/-- No bar stands where the start of a target does, perhaps behind a gap. -/
theorem head_gap_append_ne_bar {c : Char} (hg : IsGap g) (hc : Ends.isTargetStart c = true) :
    (g ++ c :: rest).head? ≠ some '|' := by
  cases g with
  | nil =>
    intro hb
    cases hb
    cases hc
  | cons d g =>
    intro hb
    cases hb
    have := hg '|' List.mem_cons_self
    cases this

/-- Behind an arrow its label, a gap and a target are read. -/
theorem edgeBehindArrow?_eq_some_iff (hn : '\n' ∉ text) :
    Ends.edgeBehindArrow? text = some (gap, target, behind) ↔
      text = gap ++ (target ++ behind) ∧ Ends.IsTarget target behind ∧
        ∃ label g, (∀ l ∈ label, '|' ∉ l) ∧ IsGap g ∧ gap = Edge.labelText label ++ g := by
  constructor
  · intro h
    obtain ⟨label, rest, hlabel, hl, ht⟩ := exists_edgeLabel text
    obtain ⟨g, hg, hrest⟩ := exists_gap_trimStart rest
    have hn' : '\n' ∉ trimStart rest := by
      rw [ht, hrest] at hn
      simp only [List.mem_append, not_or] at hn
      exact hn.2.2
    rw [Ends.edgeBehindArrow?, hlabel] at h
    obtain ⟨⟨target', behind'⟩, hread, he⟩ := Option.map_eq_some_iff.mp h
    cases he
    obtain ⟨hr, htarget⟩ := (edgeTarget?_eq_some_iff hn').mp hread
    refine ⟨?_, htarget, label, indentation rest, hl, isGap_indentation rest, rfl⟩
    rw [List.append_assoc, ← hr, indentation_append_trimStart]
    exact ht
  · rintro ⟨rfl, htarget, label, g, hl, hg, rfl⟩
    obtain ⟨c, t, rfl, hc⟩ := htarget.head
    have hblank := isBlank_of_isTargetCharacter (isTargetCharacter_of_start hc)
    have hbar : (g ++ (c :: t ++ behind)).head? ≠ some '|' := head_gap_append_ne_bar hg hc
    have hn' : '\n' ∉ c :: t ++ behind := fun h => hn (List.mem_append_right _ h)
    obtain ⟨htrim, hindent⟩ := trimStart_indentation_of_first hg ⟨c, t, rfl, hblank⟩ behind
    rw [List.append_assoc, Ends.edgeBehindArrow?, edgeLabel_labelText hl hbar]
    simp only [htrim, hindent, (edgeTarget?_eq_some_iff hn').mpr ⟨rfl, htarget⟩, Option.map_some]

/-- Behind a source and its shape a joint and a target are read. -/
theorem edgeBehindSource?_eq_some_iff (hn : '\n' ∉ text) :
    Ends.edgeBehindSource? text = some (between, target, behind) ↔
      text = between ++ (target ++ behind) ∧ Ends.IsJoint between ∧ Ends.IsTarget target behind := by
  constructor
  · intro h
    obtain ⟨⟨arrow, gap, target', behind'⟩, hread, he⟩ := Option.map_eq_some_iff.mp h
    cases he
    obtain ⟨ha, rest, ht, hread⟩ := firstOf?_eq_append hread
    obtain ⟨hrest, htarget, label, g, hl, hg, rfl⟩ :=
      (edgeBehindArrow?_eq_some_iff (not_mem_of_trimStart_eq hn ht)).mp hread
    refine ⟨?_, ⟨indentation text, arrow, label, g, isGap_indentation text, ha, hl, hg, by simp⟩, htarget⟩
    conv => lhs; rw [← indentation_append_trimStart text, ht, hrest]
    simp
  · rintro ⟨rfl, ⟨gap, arrow, label, g, hgap, ha, hl, hg, rfl⟩, htarget⟩
    have htext : gap ++ arrow ++ Edge.labelText label ++ g ++ (target ++ behind) =
        gap ++ (arrow ++ (Edge.labelText label ++ g ++ (target ++ behind))) := by simp
    obtain ⟨htrim, hindent⟩ := trimStart_edgeArrow hgap ha (Edge.labelText label ++ g ++ (target ++ behind))
    rw [htext] at hn ⊢
    have hread := (edgeBehindArrow?_eq_some_iff (not_mem_of_trimStart_eq hn htrim)).mpr
      ⟨rfl, htarget, label, g, hl, hg, rfl⟩
    have hchosen : firstOf? Ends.edgeArrows Ends.edgeBehindArrow?
        (arrow ++ (Edge.labelText label ++ g ++ (target ++ behind))) =
          some (arrow, Edge.labelText label ++ g, target, behind) := by
      refine (firstOf?_eq_some_iff pairwise_edgeArrows).mpr ⟨ha, _, rfl, hread, fun arrow' ha' rest' he _ => ?_⟩
      rcases List.append_eq_append_iff.mp he with ⟨m, hm, _⟩ | ⟨m, hm, _⟩
      · exact Nat.le_of_eq (congrArg List.length (edgeArrow_eq_of_start ha ha' ⟨m, hm.symm⟩).symm)
      · exact Nat.le_of_eq (congrArg List.length (edgeArrow_eq_of_start ha' ha ⟨m, hm.symm⟩))
    rw [Ends.edgeBehindSource?, htrim, hindent, hchosen, Option.map_some]
    simp

theorem edgeBehindSource?_eq_none_iff (hn : '\n' ∉ text) :
    Ends.edgeBehindSource? text = none ↔ ¬Ends.TargetAhead text := by
  constructor
  · rintro hnone ⟨between, c, rest, hjoint, hc, rfl⟩
    have hn' : '\n' ∉ c :: rest := fun h => hn (List.mem_append_right between h)
    obtain ⟨⟨target, behind⟩, hread⟩ :=
      Option.ne_none_iff_exists'.mp ((edgeTarget?_ne_none_iff hn').mpr ⟨c, rest, rfl, hc⟩)
    obtain ⟨ht, htarget⟩ := (edgeTarget?_eq_some_iff hn').mp hread
    rw [(edgeBehindSource?_eq_some_iff hn).mpr ⟨by rw [ht], hjoint, htarget⟩] at hnone
    cases hnone
  · intro hno
    refine Option.eq_none_iff_forall_ne_some.mpr fun ⟨between, target, behind⟩ h => hno ?_
    obtain ⟨rfl, hjoint, htarget⟩ := (edgeBehindSource?_eq_some_iff hn).mp h
    obtain ⟨c, t, rfl, hc⟩ := htarget.head
    exact ⟨between, c, t ++ behind, hjoint, hc, rfl⟩

/-- Where the start of a target is ahead, all of it and of the joint before it can be read. -/
theorem Ends.TargetAhead.exists_parts (h : Ends.TargetAhead text) (hn : '\n' ∉ text) :
    ∃ between target behind, text = between ++ (target ++ behind) ∧ Ends.IsJoint between ∧
      Ends.IsTarget target behind := by
  have hread : Ends.edgeBehindSource? text ≠ none := fun hnone => (edgeBehindSource?_eq_none_iff hn).mp hnone h
  obtain ⟨⟨between, target, behind⟩, hread⟩ := Option.ne_none_iff_exists'.mp hread
  exact ⟨between, target, behind, (edgeBehindSource?_eq_some_iff hn).mp hread⟩

/-- A target is ahead where it is behind an arrow and the blanks before it. -/
theorem targetAhead_iff : Ends.TargetAhead text ↔
    ∃ arrow ∈ Ends.edgeArrows, ∃ rest, trimStart text = arrow ++ rest ∧ Ends.TargetBehindArrow rest := by
  constructor
  · rintro ⟨between, c, rest, ⟨gap, arrow, label, g, hgap, ha, hl, hg, rfl⟩, hc, rfl⟩
    refine ⟨arrow, ha, Edge.labelText label ++ g ++ c :: rest, ?_, label, g, c, rest, hl, hg, hc, rfl⟩
    rw [← (trimStart_edgeArrow hgap ha _).1]
    simp
  · rintro ⟨arrow, ha, rest, ht, label, g, c, rest', hl, hg, hc, rfl⟩
    refine ⟨indentation text ++ arrow ++ Edge.labelText label ++ g, c, rest',
      ⟨indentation text, arrow, label, g, isGap_indentation text, ha, hl, hg, rfl⟩, hc, ?_⟩
    conv => lhs; rw [← indentation_append_trimStart text, ht]
    simp

theorem targetAhead_gap_append (hg : IsGap g) : Ends.TargetAhead (g ++ text) ↔ Ends.TargetAhead text := by
  rw [targetAhead_iff, targetAhead_iff, trimStart_gap_append hg]

/-- No target stands behind an arrow where a stroke or a head does. -/
theorem not_targetBehindArrow {c : Char} (hc : c = '-' ∨ c = '>') : ¬Ends.TargetBehindArrow (c :: rest) := by
  rintro ⟨label, g, d, rest', _, hg, hd, he⟩
  cases label with
  | some l => rcases hc with rfl | rfl <;> cases he
  | none =>
    cases g with
    | cons b g =>
      have hb := hg b List.mem_cons_self
      rw [← (List.cons.inj he).1] at hb
      rcases hc with rfl | rfl <;> cases hb
    | nil =>
      rw [← (List.cons.inj he).1] at hd
      rcases hc with rfl | rfl <;> cases hd

/-- No target is ahead of a character that neither is in an arrow nor has a dash behind it. -/
theorem not_targetAhead_cons {c : Char} (hblank : isBlank c = false) (hc : c ∉ ['-', '=', '<'])
    (hr : rest.head? ≠ some '-') : ¬Ends.TargetAhead (c :: rest) := by
  rw [targetAhead_iff, trimStart_cons_of_not_blank hblank]
  rintro ⟨arrow, ha, behind, ht, -⟩
  obtain ⟨d, t, rfl, hd⟩ := edgeArrow_start ha
  obtain ⟨rfl, rfl⟩ := List.cons.inj ht
  rcases hd with hd | hd
  · exact hc (List.mem_append_left ['<'] hd)
  · obtain ⟨t', rfl⟩ := List.head?_eq_some_iff.mp hd
    exact hr rfl

end Joints

/-! ## Sources -/

namespace Ends

/-- An edge stands behind the name of its source: perhaps a shape, a joint, and the start of a target. -/
def EdgeBehind (text : Text) : Prop :=
  ∃ shape rest, text = shape ++ rest ∧ IsLeadingShape shape rest ∧ TargetAhead rest

/-- The source of an edge in front of a text: a name and perhaps a shape. An edge stands behind no longer name. -/
def IsSource (source behind : Text) : Prop :=
  ∃ name shape, source = name ++ shape ∧ EndsIn isSourceCharacter isSourceEnd name ∧ IsLeadingShape shape behind ∧
    ∀ more rest, shape ++ behind = more ++ rest → EndsIn isSourceCharacter isSourceEnd more → ¬EdgeBehind rest

/-- The parts of a line are the ends of an edge and what stands around them. -/
structure IsEdge (e : Ends) : Prop where
  before : IsGap e.before
  source : IsSource e.source (e.between ++ (e.target ++ e.behind))
  joint : IsJoint e.between
  target : IsTarget e.target e.behind

end Ends

section Sources

variable {name : Text}

theorem edgeBehindName?_eq (h : Ends.leadingShape text = (shape, rest)) :
    Ends.edgeBehindName? text = (Ends.edgeBehindSource? rest).map (shape, ·) := by
  rw [Ends.leadingShape] at h
  rw [Ends.edgeBehindName?]
  cases hb : bracketShape? text with
  | none =>
    rw [hb] at h
    cases h
    rfl
  | some found =>
    rw [hb] at h
    cases h
    rfl

theorem edgeBehindName?_eq_some_iff (hn : '\n' ∉ text) :
    Ends.edgeBehindName? text = some (shape, between, target, behind) ↔
      text = shape ++ (between ++ (target ++ behind)) ∧ Ends.IsLeadingShape shape (between ++ (target ++ behind)) ∧
        Ends.IsJoint between ∧ Ends.IsTarget target behind := by
  constructor
  · intro h
    obtain ⟨shape', rest, hlead⟩ : ∃ shape' rest, Ends.leadingShape text = (shape', rest) := ⟨_, _, rfl⟩
    obtain ⟨ht, hshape⟩ := leadingShape_eq_iff.mp hlead
    rw [edgeBehindName?_eq hlead] at h
    obtain ⟨⟨between', target', behind'⟩, hread, he⟩ := Option.map_eq_some_iff.mp h
    cases he
    rw [ht, List.mem_append, not_or] at hn
    obtain ⟨hr, hjoint, htarget⟩ := (edgeBehindSource?_eq_some_iff hn.2).mp hread
    exact ⟨by rw [ht, hr], hr ▸ hshape, hjoint, htarget⟩
  · rintro ⟨ht, hshape, hjoint, htarget⟩
    rw [ht, List.mem_append, not_or] at hn
    rw [edgeBehindName?_eq (leadingShape_eq_iff.mpr ⟨ht, hshape⟩),
      (edgeBehindSource?_eq_some_iff hn.2).mpr ⟨rfl, hjoint, htarget⟩, Option.map_some]

theorem edgeBehindName?_eq_none_iff (hn : '\n' ∉ text) :
    Ends.edgeBehindName? text = none ↔ ¬Ends.EdgeBehind text := by
  obtain ⟨shape, rest, hlead⟩ : ∃ shape rest, Ends.leadingShape text = (shape, rest) := ⟨_, _, rfl⟩
  obtain ⟨ht, hshape⟩ := leadingShape_eq_iff.mp hlead
  have hbehind : Ends.EdgeBehind text ↔ Ends.TargetAhead rest := by
    constructor
    · rintro ⟨shape', rest', ht', hshape', hahead⟩
      rw [leadingShape_eq_iff.mpr ⟨ht', hshape'⟩] at hlead
      cases hlead
      exact hahead
    · exact fun hahead => ⟨shape, rest, ht, hshape, hahead⟩
  rw [ht, List.mem_append, not_or] at hn
  rw [edgeBehindName?_eq hlead, Option.map_eq_none_iff, edgeBehindSource?_eq_none_iff hn.2, hbehind]

/-- Where no shape can start, an edge is behind a name only if a target is ahead. -/
theorem Ends.EdgeBehind.targetAhead (h : Ends.EdgeBehind text) (ho : ∀ c, text.head? = some c → isOpener c = false) :
    Ends.TargetAhead text := by
  obtain ⟨shape, rest, rfl, hshape, hahead⟩ := h
  rcases hshape.head with rfl | ⟨c, t, rfl, hc⟩
  · exact hahead
  · rw [ho c rfl] at hc
    cases hc

theorem not_edgeBehind_of_no_stroke (hdash : '-' ∉ text) (hequals : '=' ∉ text) : ¬Ends.EdgeBehind text := by
  rintro ⟨shape, rest, rfl, -, between, c, behind, ⟨gap, arrow, label, g, -, ha, -, -, rfl⟩, -, rfl⟩
  simp only [List.mem_append, not_or] at hdash hequals
  exact (edgeArrow_stroke ha).elim hdash.2.1.1.1.2 hequals.2.1.1.1.2

theorem isBlank_of_isSourceCharacter {c : Char} (h : Ends.isSourceCharacter c = true) : isBlank c = false := by
  simp only [Ends.isSourceCharacter, Bool.and_eq_true, Bool.not_eq_true'] at h
  exact h.1.1

/-- The name of a source stands where the blanks before it end. -/
theorem trimStart_name {before : Text} (hb : IsGap before)
    (h : EndsIn Ends.isSourceCharacter Ends.isSourceEnd name) (rest : Text) :
    trimStart (before ++ (name ++ rest)) = name ++ rest ∧ indentation (before ++ (name ++ rest)) = before := by
  obtain ⟨c, t, rfl⟩ := List.exists_cons_of_ne_nil h.ne_nil
  exact trimStart_indentation_of_first hb ⟨c, t, rfl, isBlank_of_isSourceCharacter h.head⟩ rest

/-- **What is read as an edge.** -/
theorem Ends.ofEdge?_eq_some_iff (hn : '\n' ∉ line) : Ends.ofEdge? line = some e ↔ line = e.toText ∧ e.IsEdge := by
  constructor
  · intro h
    obtain ⟨⟨name, shape, between, target, behind⟩, hread, rfl⟩ := Option.map_eq_some_iff.mp h
    obtain ⟨rest, ht, hlongest⟩ := longestRun_eq_some_iff.mp hread
    obtain ⟨hrest, hshape, hjoint, htarget⟩ :=
      (edgeBehindName?_eq_some_iff (not_mem_of_trimStart_eq hn ht)).mp hlongest.eq_some
    refine ⟨?_, isGap_indentation line, ⟨name, shape, rfl, hlongest.run, hshape, ?_⟩, hjoint, htarget⟩
    · conv => lhs; rw [← indentation_append_trimStart line, ht, hrest]
      simp [Ends.toText]
    · intro more rest' he hends
      have hnone := hlongest.longest more rest' (hrest.trans he) hends
      rw [hrest, he, ← List.append_assoc] at ht
      exact (edgeBehindName?_eq_none_iff (not_mem_of_trimStart_eq hn ht)).mp hnone
  · rintro ⟨rfl, hbefore, ⟨name, shape, hsource, hname, hshape, hlongest⟩, hjoint, htarget⟩
    obtain ⟨before, source, between, target, behind⟩ := e
    dsimp only at hbefore hsource hshape hlongest hjoint htarget
    subst hsource
    have htext : Ends.toText ⟨before, name ++ shape, between, target, behind⟩ =
        before ++ (name ++ (shape ++ (between ++ (target ++ behind)))) := by
      simp [Ends.toText]
    obtain ⟨htrim, hindent⟩ := trimStart_name hbefore hname (shape ++ (between ++ (target ++ behind)))
    rw [htext] at hn ⊢
    have hn' : '\n' ∉ shape ++ (between ++ (target ++ behind)) := not_mem_of_trimStart_eq hn htrim
    have hrun : IsLongestRun Ends.isSourceCharacter Ends.isSourceEnd Ends.edgeBehindName? name
        (shape ++ (between ++ (target ++ behind))) (shape, between, target, behind) := by
      refine ⟨hname, (edgeBehindName?_eq_some_iff hn').mpr ⟨rfl, hshape, hjoint, htarget⟩,
        fun more rest' he hends => ?_⟩
      rw [he, List.mem_append, not_or] at hn'
      exact (edgeBehindName?_eq_none_iff hn'.2).mpr (hlongest more rest' he hends)
    rw [Ends.ofEdge?, htrim, hindent, longestRun_eq_some_iff.mpr ⟨_, rfl, hrun⟩, Option.map_some]

/-- No edge is read of a line exactly where it is not made of the parts of one. -/
theorem Ends.ofEdge?_eq_none_iff_forall (hn : '\n' ∉ line) : Ends.ofEdge? line = none ↔
    ∀ f : Ends, f.IsEdge → f.toText ≠ line := by
  rw [Option.eq_none_iff_forall_ne_some]
  refine forall_congr' fun f => ?_
  rw [Ne, Ends.ofEdge?_eq_some_iff hn]
  exact ⟨fun h hf ht => h ⟨ht.symm, hf⟩, fun h hf => h hf.2 hf.1.symm⟩

/-- No edge is read where none stands behind any name of a source. -/
theorem Ends.ofEdge?_eq_none_iff (hn : '\n' ∉ line) : Ends.ofEdge? line = none ↔
    ∀ name rest, trimStart line = name ++ rest → EndsIn Ends.isSourceCharacter Ends.isSourceEnd name →
      ¬Ends.EdgeBehind rest := by
  rw [Ends.ofEdge?, Option.map_eq_none_iff, longestRun_eq_none_iff]
  exact forall₄_congr fun name rest ht _ => edgeBehindName?_eq_none_iff (not_mem_of_trimStart_eq hn ht)

end Sources

end DiagramText
