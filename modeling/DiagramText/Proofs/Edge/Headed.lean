import DiagramText.Proofs.Edge.Respacing
import DiagramText.Proofs.Text.Mark

/-!
# Headed arrows behind an identifier

- A headed arrow (`headed`) is a line of two or more strokes with a head at its end;
- it is read as it stands where a target follows it: no arrow goes on behind its head (`Draws.head_last`), and no name of
  a source ends within its strokes (`eq_nil_of_headed`);
- so the source of an edge is the identifier in front of a headed arrow, where no edge is in what follows
  (`Edge.ofText?_headed`); in particular two identifiers with a headed arrow between them are an edge
  (`Edge.ofText?_identifiers`).
-/

namespace DiagramText

open Text

/-- A line of `n + 2` strokes with a head. -/
def headed (stroke : Char) (n : Nat) : Text :=
  List.replicate (n + 2) stroke ++ ['>']

theorem headed_succ (stroke : Char) (n : Nat) : headed stroke (n + 1) =
    stroke :: stroke :: stroke :: (List.replicate n stroke ++ ['>']) := by
  simp [headed, List.replicate_succ]

theorem headed_append (stroke : Char) (n : Nat) : headed stroke n = List.replicate n stroke ++ headed stroke 0 := by
  rw [headed, headed, ← List.append_assoc, List.replicate_append_replicate]

/-! ## Identifiers -/

section Identifiers

variable {name rest : Text} {c : Char}

theorem isSourceCharacter_of_isIdentifierPart (h : isIdentifierPart c = true) :
    Edge.isSourceCharacter c = true ∧ Edge.isSourceEnd c = true := by
  have hne : ∀ d, isIdentifierPart d = false → c ≠ d := fun d => ne_of_isIdentifierPart h
  simp [Edge.isSourceCharacter, Edge.isSourceEnd, isBlank_of_isIdentifierPart h, hne '<' (by decide),
    hne '-' (by decide), hne '=' (by decide), hne '.' (by decide)]

theorem endsIn_of_isIdentifier (h : isIdentifier name = true) :
    EndsIn Edge.isSourceCharacter Edge.isSourceEnd name := by
  obtain ⟨c, rest, hname, _⟩ := isIdentifier_iff.mp h
  have hne : name ≠ [] := by simp [hname]
  have hsource : ∀ d ∈ name, Edge.isSourceCharacter d = true ∧ Edge.isSourceEnd d = true := fun d hd =>
    isSourceCharacter_of_isIdentifierPart (isIdentifierPart_of_mem h hd)
  exact ⟨List.all_eq_true.mpr fun d hd => (hsource d hd).1, _, List.getLast?_eq_some_getLast hne,
    (hsource _ (List.getLast_mem hne)).2⟩

/-- Where an edge is ahead, there is an arrow. -/
theorem EdgeAhead.exists_arrow (h : EdgeAhead rest) :
    ∃ form ∈ Edge.arrows, ∃ arrow, form.Draws arrow ∧ arrow <:+: rest := by
  have hplain : ∀ text, ArrowAhead text → ∃ form ∈ Edge.arrows, ∃ arrow, form.Draws arrow ∧ arrow <:+: text := by
    rintro text ⟨form, hf, arrow, behind, hd, ht, _⟩
    obtain ⟨gap, _, hgap⟩ := exists_gap_trimStart text
    exact ⟨form, hf, arrow, hd, gap, behind, by rw [List.append_assoc, ← ht, ← hgap]⟩
  rcases h with h | ⟨opener, label, closer, behind, rfl, _, h⟩
  · exact hplain rest h
  · obtain ⟨form, hf, arrow, hd, hin⟩ := hplain behind h
    exact ⟨form, hf, arrow, hd, hin.trans (List.suffix_append _ behind).isInfix⟩

theorem not_edgeAhead_of_no_stroke (hdash : '-' ∉ rest) (hequals : '=' ∉ rest) : ¬EdgeAhead rest := by
  intro h
  obtain ⟨form, hf, arrow, hd, hin⟩ := h.exists_arrow
  exact (hd.stroke hf).elim (fun hc => hdash (hin.subset hc)) fun hc => hequals (hin.subset hc)

end Identifiers

/-! ## The arrow -/

section Arrow

variable {form : ArrowForm} {stroke : Char} {n : Nat} {x y run m gap text target : Text}

theorem exists_draws_headed (hs : stroke = '-' ∨ stroke = '=') (n : Nat) :
    ∃ form ∈ Edge.arrows, form.Draws (headed stroke n) := by
  rcases hs with rfl | rfl
  · exact ⟨.strokes [] '-' ['>'], by simp [Edge.arrows], n, rfl⟩
  · exact ⟨.strokes [] '=' ['>'], by simp [Edge.arrows], n, rfl⟩

/-- The letters that an arrow can have in front of its last one. -/
def ArrowForm.innerLetters : ArrowForm → Text
  | .exact word => word.dropLast
  | .strokes tail stroke head => tail ++ [stroke] ++ head.dropLast

theorem ArrowForm.Draws.mem_innerLetters {arrow : Text} (h : form.Draws arrow) :
    ∀ c ∈ arrow.dropLast, c ∈ form.innerLetters := by
  cases form with
  | exact word =>
    rw [ArrowForm.Draws] at h
    exact fun c hc => h ▸ hc
  | strokes tail stroke head =>
    obtain ⟨n, rfl⟩ := h
    have hstrokes : ∀ c ∈ tail ++ List.replicate (n + 2) stroke, c ∈ tail ++ [stroke] := by
      intro c hc
      rcases List.mem_append.mp hc with hc | hc
      · exact List.mem_append_left _ hc
      · rw [List.eq_of_mem_replicate hc]
        simp
    intro c hc
    by_cases hhead : head = []
    · rw [hhead, List.append_nil] at hc
      exact List.mem_append_left _ (hstrokes c (List.dropLast_subset _ hc))
    · rw [List.dropLast_append_of_ne_nil hhead] at hc
      rcases List.mem_append.mp hc with hc | hc
      · exact List.mem_append_left _ (hstrokes c hc)
      · exact List.mem_append_right _ hc

/-- No arrow goes on behind a head. -/
theorem ArrowForm.Draws.head_last (hf : form ∈ Edge.arrows) (h : form.Draws (x ++ '>' :: y)) : y = [] := by
  have hall : ∀ form ∈ Edge.arrows, '>' ∉ form.innerLetters := by decide
  refine Classical.byContradiction fun hne => hall form hf (h.mem_innerLetters '>' ?_)
  rw [List.dropLast_append_of_ne_nil (List.cons_ne_nil _ _), List.dropLast_cons_of_ne_nil hne]
  simp

/-- A run that does not end in a stroke holds all of the arrow that it starts with. -/
theorem eq_nil_of_headed (he : headed stroke n = run ++ m) (hne : run ≠ [])
    (hlast : ∀ c, run.getLast? = some c → c ≠ stroke) : m = [] := by
  refine Classical.byContradiction fun hm => ?_
  -- Without its last character the arrow consists of strokes.
  have hstrokes : run ++ m.dropLast = List.replicate (n + 2) stroke := by
    rw [← List.dropLast_append_of_ne_nil hm, ← he, headed, List.dropLast_concat]
  have hmem : run.getLast hne ∈ run ++ m.dropLast := List.mem_append_left _ (List.getLast_mem hne)
  rw [hstrokes] at hmem
  exact hlast _ (List.getLast?_eq_some_getLast hne) (List.eq_of_mem_replicate hmem)

/-- A run without blanks that starts where the blanks before a headed arrow do, and does not end in a stroke, takes the
whole arrow. -/
theorem exists_append_of_headed (hg : IsGap gap) (he : gap ++ (headed stroke n ++ text) = run ++ y) (hne : run ≠ [])
    (hblank : ∀ c ∈ run, isBlank c = false) (hlast : ∀ c, run.getLast? = some c → c ≠ stroke) :
    ∃ m, run = headed stroke n ++ m ∧ text = m ++ y := by
  cases gap with
  | cons c gap =>
    obtain ⟨d, run, rfl⟩ := List.exists_cons_of_ne_nil hne
    have hc := hg c List.mem_cons_self
    rw [(List.cons.inj he).1, hblank d List.mem_cons_self] at hc
    cases hc
  | nil =>
    rw [List.nil_append] at he
    rcases List.append_eq_append_iff.mp he with hsplit | ⟨m, hm, hy⟩
    · exact hsplit
    · have hnil := eq_nil_of_headed hm hne hlast
      rw [hnil, List.append_nil] at hm
      rw [hnil] at hy
      exact ⟨[], by rw [hm, List.append_nil], hy.symm⟩

/-- Behind an arrow and a gap, a text without blanks around it and without a bar at its start is the target. -/
theorem labelAndTarget?_of_isTight (h : IsTight text) (hg : IsGap gap) (hn : '\n' ∉ gap)
    (hbar : text.head? ≠ some '|') : Edge.labelAndTarget? (gap ++ text) = some (none, text) := by
  have htrim : trimStart (gap ++ text) = text := by rw [trimStart_gap_append hg, h.trimStart_eq]
  rcases labelAndTarget?_cases (h.toIsTail.append h.ne_nil hn) (by simp [h.ne_nil]) with ⟨l, rest, hl, _⟩ | ⟨_, hread⟩
  · rw [htrim] at hl
    exact absurd (by rw [hl]; rfl) hbar
  · rw [hread, htrim]

/-- A headed arrow with a target behind it is read as it stands. -/
theorem arrowAndTarget?_headed (hs : stroke = '-' ∨ stroke = '=') (hg : IsGap gap)
    (h : Edge.labelAndTarget? text = some (none, target)) :
    Edge.arrowAndTarget? (gap ++ (headed stroke n ++ text)) = some (headed stroke n, none, target) := by
  obtain ⟨form, hf, hd⟩ := exists_draws_headed hs n
  have hblank : isBlank stroke = false := by rcases hs with rfl | rfl <;> decide
  have htrim : trimStart (gap ++ (headed stroke n ++ text)) = headed stroke n ++ text := by
    rw [trimStart_gap_append hg]
    exact trimStart_cons_of_not_blank hblank _
  have hsome : Edge.labelAndTarget? text ≠ none := by rw [h]; exact Option.some_ne_none _
  obtain ⟨⟨arrow, label, target'⟩, hread⟩ := Option.ne_none_iff_exists'.mp (arrowAndTarget?_ne_none hf hd htrim hsome)
  obtain ⟨form', hf', rest, hd', ht, hread', hlongest⟩ := arrowAndTarget?_eq_some hread
  -- The arrow that is read is no shorter, and does not go on behind the head.
  have hle := hlongest form hf (headed stroke n) text hd htrim hsome
  rw [htrim] at ht
  obtain ⟨m, harrow⟩ : ∃ m, arrow = headed stroke n ++ m := by
    rcases List.append_eq_append_iff.mp ht with ⟨m, hm, _⟩ | ⟨m, hm, _⟩
    · exact ⟨m, hm⟩
    · rw [hm, List.length_append] at hle
      have hnil : m = [] := List.eq_nil_of_length_eq_zero (by omega)
      exact ⟨[], by rw [hm, hnil, List.append_nil, List.append_nil]⟩
  have hnil : m = [] := by
    rw [harrow, headed, List.append_assoc, List.singleton_append] at hd'
    exact hd'.head_last hf'
  rw [hnil, List.append_nil] at harrow
  rw [harrow, List.append_cancel_left_eq] at ht
  rw [← ht, h] at hread'
  cases hread'
  rw [hread, harrow]

/-- Neither a shape in brackets nor one in angles starts where a headed arrow does. -/
theorem exists_head_headed (hs : stroke = '-' ∨ stroke = '=') (hg : IsGap gap) (n : Nat) (text : Text) :
    ∃ c rest, gap ++ (headed stroke n ++ text) = c :: rest ∧ isOpener c = false ∧ c ≠ '>' := by
  cases gap with
  | cons c gap =>
    have hblank := hg c List.mem_cons_self
    refine ⟨c, _, rfl, Bool.eq_false_iff.mpr fun ho => ?_, ?_⟩
    · rw [isBlank_of_isOpener ho] at hblank
      cases hblank
    · rintro rfl
      cases hblank
  | nil => exact ⟨stroke, _, rfl, by rcases hs with rfl | rfl <;> decide, by rcases hs with rfl | rfl <;> decide⟩

theorem shapeAndTarget?_headed (hs : stroke = '-' ∨ stroke = '=') (hg : IsGap gap)
    (h : Edge.labelAndTarget? text = some (none, target)) :
    Edge.shapeAndTarget? (gap ++ (headed stroke n ++ text)) = some ([], headed stroke n, none, target) := by
  have hread := arrowAndTarget?_headed (n := n) hs hg h
  obtain ⟨c, rest, hc, ho⟩ := exists_head_headed hs hg n text
  rw [hc] at hread ⊢
  have hshape : (bracketShape? (c :: rest)).or (angleShape? (c :: rest)) = none := by
    refine Option.eq_none_iff_forall_ne_some.mpr fun ⟨shape, behind⟩ hs => ?_
    obtain ⟨opener, label, closer, hshape, ht, hs⟩ := shape?_eq_some_iff.mp hs
    rw [hshape] at ht
    cases hs with
    | bracket hopen _ _ _ _ =>
      rw [← (List.cons.inj ht).1, ho.1] at hopen
      cases hopen
    | angle _ => exact ho.2 (List.cons.inj ht).1
  simp only [Edge.shapeAndTarget?, hshape, hread, Option.map_some]

end Arrow

/-! ## Edges -/

section Edges

variable {stroke : Char} {n : Nat} {source target gap gap' text : Text}

/-- The source of an edge is the identifier in front of a headed arrow, where no edge is ahead in what follows. -/
theorem Edge.ofText?_headed (hsource : isIdentifier source = true) (hs : stroke = '-' ∨ stroke = '=') (hg : IsGap gap)
    (htail : IsTail text) (hread : Edge.labelAndTarget? text = some (none, target))
    (hno : ∀ more rest, text = more ++ rest →
      (more = [] ∨ EndsIn Edge.isSourceCharacter Edge.isSourceEnd more) → ¬EdgeAhead rest) :
    Edge.ofText? (source ++ (gap ++ (headed stroke n ++ text))) = some ⟨source, headed stroke n, none, target⟩ := by
  have hlongest : IsLongestRun Edge.isSourceCharacter Edge.isSourceEnd Edge.shapeAndTarget? source
      (gap ++ (headed stroke n ++ text)) ([], headed stroke n, none, target) := by
    refine ⟨endsIn_of_isIdentifier hsource, shapeAndTarget?_headed hs hg hread, fun more rest he hends => ?_⟩
    -- A longer name would take the whole arrow, and perhaps a piece of what follows.
    obtain ⟨m, hm, hrest⟩ := exists_append_of_headed hg he hends.ne_nil
      (fun c hc => by
        have := List.all_eq_true.mp hends.1 c hc
        simp only [Edge.isSourceCharacter, Bool.and_eq_true, Bool.not_eq_true'] at this
        exact this.1)
      (fun c hc => by
        obtain ⟨-, d, hd, hend⟩ := hends
        rw [hc, Option.some.injEq] at hd
        rintro rfl
        rw [← hd] at hend
        rcases hs with rfl | rfl <;> cases hend)
    have hends' : m = [] ∨ EndsIn Edge.isSourceCharacter Edge.isSourceEnd m := by
      by_cases hne : m = []
      · exact Or.inl hne
      · exact Or.inr ((hm ▸ hends).of_append hne)
    refine (shapeAndTarget?_eq_none_iff ?_).mpr (hno m rest hrest hends')
    rw [hrest] at htail
    exact htail.of_append
  rw [Edge.ofText?_of_isLongestRun hlongest, List.append_nil]

/-- Two identifiers with a headed arrow between them are an edge. -/
theorem Edge.ofText?_identifiers (hsource : isIdentifier source = true) (htarget : isIdentifier target = true)
    (hs : stroke = '-' ∨ stroke = '=') (hg : IsGap gap) (hg' : IsGap gap') (hn : '\n' ∉ gap') :
    Edge.ofText? (source ++ (gap ++ (headed stroke n ++ (gap' ++ target)))) =
      some ⟨source, headed stroke n, none, target⟩ := by
  have htight := isTight_of_isIdentifier htarget
  have hbar : target.head? ≠ some '|' := fun h =>
    not_mem_of_isIdentifier htarget (by decide) (List.mem_of_head? h)
  have hdash : '-' ∉ gap' ++ target := not_mem_gap_append hg' htarget (by decide) (by decide)
  have hequals : '=' ∉ gap' ++ target := not_mem_gap_append hg' htarget (by decide) (by decide)
  refine Edge.ofText?_headed hsource hs hg (htight.toIsTail.append htight.ne_nil hn)
    (labelAndTarget?_of_isTight htight hg' hn hbar) fun more rest he _ => ?_
  rw [he, List.mem_append, not_or] at hdash hequals
  exact not_edgeAhead_of_no_stroke hdash.2 hequals.2

end Edges

end DiagramText
