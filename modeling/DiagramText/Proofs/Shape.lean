import DiagramText.Shape
import DiagramText.Proofs.Text.Trim

/-!
# Shapes and the blanks behind them

- a shape in brackets is an opener, a label without closers, and a run of closers (`isShape_of_bracketShape?`,
  `bracketShape?_of_isShape`); a shape in angles is a label between two doubled `>` (`isShape_of_angleShape?`,
  `angleShape?_of_isShape`), and a label is a text between two bars (`barLabel?_eq_some_iff`);
- a shape that starts a text still does so when blanks of the text change, and what is behind it changes at most in the
  same blanks (`shape_respaced`).
-/

namespace DiagramText

open Text

variable {text shape rest label : Text}

/-! ## Runs up to a delimiter -/

section Runs

variable {p : Char → Bool} {c : Char} {run : Text}

theorem takeWhile_append_cons (h : ∀ a ∈ run, p a = true) (hc : p c = false) (rest : Text) :
    (run ++ c :: rest).takeWhile p = run := by
  rw [List.takeWhile_append_of_pos h, List.takeWhile_cons, hc]
  simp

theorem dropWhile_append_cons (h : ∀ a ∈ run, p a = true) (hc : p c = false) (rest : Text) :
    (run ++ c :: rest).dropWhile p = c :: rest := by
  rw [List.dropWhile_append_of_pos h, List.dropWhile_cons, hc]
  simp

/-- A run ends where the next character, if there is one, is another one. -/
theorem takeWhile_append_of_head (h : ∀ a ∈ run, p a = true) (hr : ∀ a, rest.head? = some a → p a = false) :
    (run ++ rest).takeWhile p = run := by
  cases rest with
  | nil => rw [List.takeWhile_append_of_pos h, List.takeWhile_nil, List.append_nil]
  | cons a rest => exact takeWhile_append_cons h (hr a rfl) rest

theorem dropWhile_append_of_head (h : ∀ a ∈ run, p a = true) (hr : ∀ a, rest.head? = some a → p a = false) :
    (run ++ rest).dropWhile p = rest := by
  cases rest with
  | nil => rw [List.dropWhile_append_of_pos h, List.dropWhile_nil]
  | cons a rest => exact dropWhile_append_cons h (hr a rfl) rest

/-- Where a run stops, the next character is another one. -/
theorem head_dropWhile (h : text.dropWhile p = c :: rest) : p c = false := by
  have := List.head?_dropWhile_not p text
  rw [h] at this
  simpa using this

theorem mem_takeWhile (h : c ∈ text.takeWhile p) : p c = true :=
  List.all_eq_true.mp (List.all_takeWhile (p := p) (l := text)) c h

end Runs

/-! ## Labels and shapes -/

/-- A label between an opener and a closer, with `behind` following the shape: brackets take every closer there is, and
angles are doubled. -/
inductive IsShape : Text → Text → Text → Text → Prop
  | bracket {c : Char} {label closers behind : Text} : isOpener c = true → (∀ a ∈ label, isCloser a = false) →
      closers ≠ [] → (∀ a ∈ closers, isCloser a = true) → (∀ a, behind.head? = some a → isCloser a = false) →
      IsShape [c] label closers behind
  | angle {label behind : Text} : '>' ∉ label → IsShape ['>', '>'] label ['>', '>'] behind

section Shapes

/-- A label stands between two bars and holds none. -/
theorem barLabel?_eq_some_iff :
    barLabel? text = some (label, rest) ↔ text = '|' :: label ++ '|' :: rest ∧ '|' ∉ label := by
  constructor
  · intro h
    rw [barLabel?.eq_def] at h
    split at h
    · next s =>
      split at h
      · next d behind hd =>
        cases h
        have hc : d = '|' := by simpa using head_dropWhile hd
        rw [hc] at hd
        refine ⟨?_, fun hm => by simpa using mem_takeWhile hm⟩
        rw [List.cons_append, ← hd, List.takeWhile_append_dropWhile]
      · cases h
    · cases h
  · rintro ⟨rfl, hl⟩
    have hp : ∀ a ∈ label, decide (a ≠ '|') = true := by
      intro a ha
      exact decide_eq_true fun he => hl (he ▸ ha)
    rw [List.cons_append, barLabel?, dropWhile_append_cons hp (by decide), takeWhile_append_cons hp (by decide)]

theorem isShape_of_bracketShape? (h : bracketShape? text = some (shape, rest)) :
    ∃ opener label closer, shape = opener ++ label ++ closer ∧ text = shape ++ rest ∧
      IsShape opener label closer rest := by
  cases text with
  | nil => cases h
  | cons c s =>
    rw [bracketShape?] at h
    split at h
    · next hc =>
      dsimp only at h
      split at h
      · cases h
      · next closers hne =>
        cases h
        have hs : s.takeWhile (!isCloser ·) ++ ((s.dropWhile (!isCloser ·)).takeWhile isCloser ++
            (s.dropWhile (!isCloser ·)).dropWhile isCloser) = s := by
          rw [List.takeWhile_append_dropWhile, List.takeWhile_append_dropWhile]
        refine ⟨[c], s.takeWhile (!isCloser ·), _, rfl, ?_, ?_⟩
        · rw [List.append_assoc, List.cons_append, hs]
        · refine IsShape.bracket hc ?_ hne (fun a ha => mem_takeWhile ha) ?_
          · intro a ha
            simpa using mem_takeWhile ha
          · intro a ha
            obtain ⟨t, ht⟩ := List.head?_eq_some_iff.mp ha
            exact head_dropWhile ht
    · cases h

theorem isShape_of_angleShape? (h : angleShape? text = some (shape, rest)) :
    ∃ opener label closer, shape = opener ++ label ++ closer ∧ text = shape ++ rest ∧
      IsShape opener label closer rest := by
  rw [angleShape?.eq_def] at h
  split at h
  · next s =>
    split at h
    · next behind hd =>
      cases h
      refine ⟨['>', '>'], s.takeWhile (· ≠ '>'), ['>', '>'], rfl, ?_, IsShape.angle fun hm => ?_⟩
      · have := List.takeWhile_append_dropWhile (p := (· ≠ '>')) (l := s)
        rw [hd] at this
        simpa using this.symm
      · simpa using mem_takeWhile hm
    · cases h
  · cases h

theorem bracketShape?_of_isShape {c : Char} {closers : Text} (hc : isOpener c = true)
    (hl : ∀ a ∈ label, isCloser a = false) (hne : closers ≠ []) (hcl : ∀ a ∈ closers, isCloser a = true)
    (hr : ∀ a, rest.head? = some a → isCloser a = false) :
    bracketShape? ([c] ++ label ++ closers ++ rest) = some ([c] ++ label ++ closers, rest) := by
  have hp : ∀ a ∈ label, (!isCloser a) = true := fun a ha => by rw [hl a ha]; rfl
  obtain ⟨d, closers, rfl⟩ := List.exists_cons_of_ne_nil hne
  have hd : (!isCloser d) = false := by rw [hcl d List.mem_cons_self]; rfl
  have htake : (d :: closers ++ rest).takeWhile isCloser = d :: closers := takeWhile_append_of_head hcl hr
  have hdrop : (d :: closers ++ rest).dropWhile isCloser = rest := dropWhile_append_of_head hcl hr
  have htext : [c] ++ label ++ (d :: closers) ++ rest = c :: (label ++ d :: (closers ++ rest)) := by simp
  rw [htext, bracketShape?, if_pos hc, takeWhile_append_cons hp hd, dropWhile_append_cons hp hd, ← List.cons_append]
  simp only [htake, hdrop]
  rfl

theorem angleShape?_of_isShape (hl : '>' ∉ label) :
    angleShape? (['>', '>'] ++ label ++ ['>', '>'] ++ rest) = some (['>', '>'] ++ label ++ ['>', '>'], rest) := by
  have hp : ∀ a ∈ label, decide (a ≠ '>') = true := by
    intro a ha
    exact decide_eq_true fun he => hl (he ▸ ha)
  have htext : ['>', '>'] ++ label ++ ['>', '>'] ++ rest = '>' :: '>' :: (label ++ '>' :: '>' :: rest) := by simp
  rw [htext, angleShape?, dropWhile_append_cons hp (by decide), takeWhile_append_cons hp (by decide)]
  rfl

/-- The shape that a text starts with, and what is behind it. -/
theorem shape?_eq_some_iff : (bracketShape? text).or (angleShape? text) = some (shape, rest) ↔
    ∃ opener label closer, shape = opener ++ label ++ closer ∧ text = shape ++ rest ∧
      IsShape opener label closer rest := by
  constructor
  · intro h
    rcases Option.or_eq_some_iff.mp h with h | ⟨_, h⟩
    · exact isShape_of_bracketShape? h
    · exact isShape_of_angleShape? h
  · rintro ⟨opener, label, closer, rfl, rfl, h⟩
    cases h with
    | bracket hc hl hne hcl hr => rw [bracketShape?_of_isShape hc hl hne hcl hr, Option.some_or]
    | angle hl =>
      have hno : bracketShape? (['>', '>'] ++ label ++ ['>', '>'] ++ rest) = none := rfl
      rw [hno, angleShape?_of_isShape hl, Option.none_or]

end Shapes

/-! ## Other blanks -/

section Respaced

variable {opener closer behind x y gap blanks : Text} {c : Char}

theorem isBlank_of_isCloser (h : isCloser c = true) : isBlank c = false := by
  simp only [isCloser, Bool.or_eq_true, beq_iff_eq] at h
  rcases h with (rfl | rfl) | rfl <;> decide

theorem isBlank_of_isOpener (h : isOpener c = true) : isBlank c = false := by
  simp only [isOpener, Bool.or_eq_true, beq_iff_eq] at h
  rcases h with (rfl | rfl) | rfl <;> decide

/-- Neither blanks nor bars delimit a shape. -/
theorem IsShape.delimiter (h : IsShape opener label closer behind) (hc : c ∈ opener ∨ c ∈ closer) :
    isBlank c = false ∧ c ≠ '|' := by
  cases h with
  | bracket ho hl hne hcl hb =>
    rcases hc with hc | hc
    · rw [List.mem_singleton.mp hc]
      exact ⟨isBlank_of_isOpener ho, fun he => by rw [he] at ho; cases ho⟩
    · have := hcl c hc
      exact ⟨isBlank_of_isCloser this, fun he => by rw [he] at this; cases this⟩
  | angle hl =>
    have hc : c = '>' := by simpa using hc
    subst hc
    decide

/-- A shape keeps its form where its label gets other blanks. -/
theorem IsShape.relabel {label' : Text} (h : IsShape opener label closer behind)
    (hl' : ∀ a ∈ label', a ∈ label ∨ isBlank a = true) : IsShape opener label' closer behind := by
  cases h with
  | bracket ho hl hne hcl hb =>
    refine IsShape.bracket ho (fun a ha => ?_) hne hcl hb
    rcases hl' a ha with h | h
    · exact hl a h
    · by_cases hc : isCloser a = true
      · rw [isBlank_of_isCloser hc] at h
        cases h
      · exact Bool.not_eq_true _ ▸ hc
  | angle hl =>
    refine IsShape.angle fun ha => ?_
    rcases hl' _ ha with h | h
    · exact hl h
    · cases h

/-- A shape stays one where no closer comes to follow its own. -/
theorem IsShape.followed {behind' : Text} (h : IsShape opener label closer behind)
    (hb' : ∀ a b, closer.getLast? = some a → behind'.head? = some b →
      isCloser a = false ∨ isCloser b = false ∨ behind.head? = some b) : IsShape opener label closer behind' := by
  cases h with
  | bracket ho hl hne hcl hb =>
    refine IsShape.bracket ho hl hne hcl fun b hbb => ?_
    rcases hb' _ b (List.getLast?_eq_some_getLast hne) hbb with h | h | h
    · rw [hcl _ (List.getLast_mem hne)] at h
      cases h
    · exact h
    · exact hb b h
  | angle hl => exact IsShape.angle hl

theorem IsShape.closer_ne_nil (h : IsShape opener label closer behind) : closer ≠ [] := by
  cases h with
  | bracket _ _ hne _ _ => exact hne
  | angle _ => exact List.cons_ne_nil _ _

/-- Blanks, or no blanks before a bar, start with a blank or a bar. -/
theorem exists_blank_or_bar (hb : IsGap blanks) (hy : blanks ≠ [] ∨ y.head? = some '|') :
    ∃ c t, blanks ++ y = c :: t ∧ (isBlank c = true ∨ c = '|') := by
  cases blanks with
  | nil =>
    obtain ⟨t, ht⟩ := List.head?_eq_some_iff.mp (hy.resolve_left fun h => h rfl)
    exact ⟨'|', t, ht, Or.inr rfl⟩
  | cons b blanks => exact ⟨b, blanks ++ y, rfl, Or.inl (hb b List.mem_cons_self)⟩

/-- Blanks or a bar inside a shape are in its label. -/
theorem IsShape.exists_label (h : IsShape opener label closer behind) (hb : IsGap blanks)
    (hy : blanks ≠ [] ∨ y.head? = some '|') (he : opener ++ label ++ closer = x ++ (blanks ++ y)) :
    ∃ l r, x = opener ++ l ∧ label = l ++ blanks ++ r ∧ y = r ++ closer := by
  obtain ⟨c, t, hc, hcb⟩ := exists_blank_or_bar hb hy
  have hno : ¬(c ∈ opener ∨ c ∈ closer) := by
    intro hm
    obtain ⟨h1, h2⟩ := h.delimiter hm
    rcases hcb with h' | h'
    · rw [h1] at h'
      cases h'
    · exact h2 h'
  rw [not_or] at hno
  rw [List.append_assoc] at he
  obtain ⟨l, hx, hl⟩ := exists_append_of_not_mem he ⟨c, t, hc, hno.1⟩
  obtain ⟨m, rfl, hm⟩ := exists_append_of_not_mem_right hl ⟨c, t, hc, hno.2⟩
  rcases List.append_eq_append_iff.mp hm with ⟨r, h1, h2⟩ | ⟨r, h1, h2⟩
  · exact ⟨l, r, hx, by rw [h1, List.append_assoc], h2⟩
  · cases r with
    | nil => exact ⟨l, [], hx, by rw [h1]; simp, by simpa using h2.symm⟩
    | cons b r =>
      have hblank : isBlank b = true := hb b (by rw [h1]; simp)
      rw [(h.delimiter (Or.inr (by rw [h2]; simp))).1] at hblank
      cases hblank

/-- A shape in front of the place where blanks change stays one, unless this puts a closer behind its own. -/
theorem IsShape.followed_respaced {z : Text} (h : IsShape opener label closer (z ++ (blanks ++ y))) (hg : IsGap gap)
    (hxy : ∀ a b, (opener ++ label ++ closer ++ z).getLast? = some a → y.head? = some b →
      isCloser a = false ∨ isCloser b = false) : IsShape opener label closer (z ++ (gap ++ y)) := by
  refine h.followed fun a b ha hb => ?_
  cases z with
  | cons d z => exact Or.inr (Or.inr hb)
  | nil =>
    cases gap with
    | cons d gap =>
      have hd : isBlank b = true := hg b (by cases hb; exact List.mem_cons_self)
      by_cases hc : isCloser b = true
      · rw [isBlank_of_isCloser hc] at hd
        cases hd
      · exact Or.inr (Or.inl (Bool.not_eq_true _ ▸ hc))
    | nil =>
      have hlast : (opener ++ label ++ closer ++ []).getLast? = some a := by
        rw [List.append_nil, List.getLast?_append, ha]
        rfl
      exact (hxy a b hlast hb).imp_right Or.inl

/-- A text that starts with a shape still does so where its blanks change in a place that is not between two closers,
and what follows the shape changes at most in that place. -/
theorem shape_respaced (hb : IsGap blanks) (hg : IsGap gap) (hy : blanks ≠ [] ∨ y.head? = some '|')
    (hxy : ∀ a b, x.getLast? = some a → y.head? = some b → isCloser a = false ∨ isCloser b = false)
    (h : IsShape opener label closer behind) (he : x ++ (blanks ++ y) = opener ++ label ++ closer ++ behind) :
    (∃ z, x = opener ++ label ++ closer ++ z ∧ behind = z ++ (blanks ++ y) ∧
      IsShape opener label closer (z ++ (gap ++ y))) ∨
    ∃ label', IsShape opener label' closer behind ∧ x ++ (gap ++ y) = opener ++ label' ++ closer ++ behind := by
  have hinside : ∀ z, x = opener ++ label ++ closer ++ z → behind = z ++ (blanks ++ y) →
      IsShape opener label closer (z ++ (gap ++ y)) := by
    rintro z rfl rfl
    exact h.followed_respaced hg hxy
  rcases List.append_eq_append_iff.mp he with ⟨z, h1, h2⟩ | ⟨z, h1, h2⟩
  · by_cases hz : z = []
    · rw [hz, List.append_nil] at h1
      rw [hz, List.nil_append] at h2
      exact Or.inl ⟨[], by rw [h1, List.append_nil], h2.symm, hinside [] (by rw [h1, List.append_nil]) h2.symm⟩
    -- The shape reaches beyond `x`, and through the blanks, since it does not end in one.
    rcases List.append_eq_append_iff.mp h2.symm with ⟨k, hk, _⟩ | ⟨y', hz', hy'⟩
    · have hzg : IsGap z := (isGap_append.mp (hk ▸ hb)).1
      obtain ⟨l, r, _, _, hnil⟩ := h.exists_label (y := []) hzg (Or.inl hz) (by rw [h1, List.append_nil])
      exact absurd (List.append_eq_nil_iff.mp hnil.symm).2 h.closer_ne_nil
    · have hyh : blanks ≠ [] ∨ y'.head? = some '|' := by
        rcases hy with hy | hy
        · exact Or.inl hy
        · cases y' with
          | nil => exact Or.inl fun hb0 => hz (by rw [hz', hb0]; rfl)
          | cons c y' =>
            rw [hy'] at hy
            exact Or.inr hy
      obtain ⟨l, r, hx, hlabel, hr⟩ := h.exists_label hb hyh (by rw [h1, hz'])
      refine Or.inr ⟨l ++ gap ++ r, h.relabel fun a ha => ?_, ?_⟩
      · rw [hlabel]
        simp only [List.mem_append] at ha ⊢
        rcases ha with (ha | ha) | ha
        · exact Or.inl (Or.inl (Or.inl ha))
        · exact Or.inr (hg a ha)
        · exact Or.inl (Or.inr ha)
      · rw [hx, hy', hr]
        simp
  · exact Or.inl ⟨z, h1, h2, hinside z h1 h2⟩

end Respaced

end DiagramText
