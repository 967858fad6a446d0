import DiagramText.Edge
import DiagramText.Proofs.Shape

/-!
# The forms of arrows

- `ArrowForm.Draws` says which texts a form draws; `cuts` lists all of them that a text starts with (`mem_cuts_iff`),
  the longest first (`pairwise_cuts`);
- the characters of an arrow: how it starts (`Draws.head`), and that it ends before a blank or a bar (`Draws.within`);
- no arrow starts an arrow of a later form (`Draws.not_prefix`), so of two arrows at the start of a text the longer one
  belongs to the form that is tried first.
-/

namespace DiagramText

open Text

/-! ## The texts that a form draws -/

namespace ArrowForm

/-- A form draws its own text, or at least two strokes between its tail and its head. -/
def Draws : ArrowForm → Text → Prop
  | exact arrow, drawn => drawn = arrow
  | strokes tail stroke head, drawn => ∃ n, drawn = tail ++ List.replicate (n + 2) stroke ++ head

end ArrowForm

section Cuts

variable {form : ArrowForm} {stroke : Char} {head tail text arrow rest : Text}

theorem after?_append (word rest : Text) : after? word (word ++ rest) = some rest :=
  after?_eq_some_iff.mpr rfl

theorem length_le_takeWhile_replicate (stroke : Char) (n : Nat) (rest : Text) :
    n ≤ ((List.replicate n stroke ++ rest).takeWhile (· == stroke)).length := by
  induction n with
  | zero => exact Nat.zero_le _
  | succ n ih =>
    rw [List.replicate_succ, List.cons_append, List.takeWhile_cons, if_pos (beq_self_eq_true stroke)]
    exact Nat.succ_le_succ ih

theorem mem_strokeCuts {n m : Nat} (hn : n + 2 ≤ m) :
    (List.replicate (n + 2) stroke ++ head, rest) ∈
      ArrowForm.strokeCuts stroke head (List.replicate (n + 2) stroke ++ head ++ rest) m := by
  generalize ht : List.replicate (n + 2) stroke ++ head ++ rest = text
  have ha : after? head (text.drop (n + 2)) = some rest := by
    rw [← ht, List.append_assoc, List.drop_left' (List.length_replicate)]
    exact after?_append head rest
  fun_induction ArrowForm.strokeCuts stroke head text m with
  | case1 => omega
  | case2 => omega
  | case3 m r hr ih =>
    by_cases hm : n = m
    · subst hm
      rw [ha] at hr
      cases hr
      exact List.mem_cons_self
    · exact List.mem_cons_of_mem _ (ih (by omega))
  | case4 m hr ih =>
    by_cases hm : n = m
    · subst hm
      rw [ha] at hr
      cases hr
    · exact ih (by omega)

theorem draws_of_mem_strokeCuts {m : Nat} (h : (arrow, rest) ∈ ArrowForm.strokeCuts stroke head text m) :
    ∃ n, arrow = List.replicate (n + 2) stroke ++ head ∧ n + 2 ≤ m := by
  fun_induction ArrowForm.strokeCuts stroke head text m with
  | case1 => cases h
  | case2 => cases h
  | case3 m r hr ih =>
    rcases List.mem_cons.mp h with h | h
    · cases h
      exact ⟨m, rfl, Nat.le_refl _⟩
    · obtain ⟨n, hn, hle⟩ := ih h
      exact ⟨n, hn, Nat.le_succ_of_le hle⟩
  | case4 m hr ih =>
    obtain ⟨n, hn, hle⟩ := ih h
    exact ⟨n, hn, Nat.le_succ_of_le hle⟩

/-- The cuts of a form are the arrows it draws at the start of a text. -/
theorem mem_cuts_iff : (arrow, rest) ∈ form.cuts text ↔ form.Draws arrow ∧ text = arrow ++ rest := by
  constructor
  · intro h
    refine ⟨?_, (append_of_mem_cuts h).symm⟩
    cases form with
    | exact word =>
      rw [ArrowForm.cuts, Option.mem_toList] at h
      obtain ⟨r, _, h⟩ := Option.map_eq_some_iff.mp h
      cases h
      rfl
    | strokes tail stroke head =>
      rw [ArrowForm.cuts] at h
      split at h
      · cases h
      · obtain ⟨⟨a, r⟩, ha, h⟩ := List.mem_map.mp h
        cases h
        obtain ⟨n, hn, _⟩ := draws_of_mem_strokeCuts ha
        exact ⟨n, by rw [hn, List.append_assoc]⟩
  · rintro ⟨hd, rfl⟩
    cases form with
    | exact word =>
      rw [ArrowForm.Draws] at hd
      subst hd
      rw [ArrowForm.cuts, after?_append]
      exact List.mem_singleton.mpr rfl
    | strokes tail stroke head =>
      obtain ⟨n, rfl⟩ := hd
      rw [ArrowForm.cuts, List.append_assoc, List.append_assoc, after?_append, ← List.append_assoc]
      refine List.mem_map.mpr ⟨(List.replicate (n + 2) stroke ++ head, rest), mem_strokeCuts ?_, by simp⟩
      rw [List.append_assoc]
      exact length_le_takeWhile_replicate stroke (n + 2) _

theorem pairwise_strokeCuts (stroke : Char) (head text : Text) (m : Nat) :
    (ArrowForm.strokeCuts stroke head text m).Pairwise fun a b => b.1.length < a.1.length := by
  fun_induction ArrowForm.strokeCuts stroke head text m with
  | case1 => exact List.Pairwise.nil
  | case2 => exact List.Pairwise.nil
  | case3 m r hr ih =>
    refine List.Pairwise.cons ?_ ih
    rintro ⟨a, s⟩ ha
    obtain ⟨n, hn, hle⟩ := draws_of_mem_strokeCuts ha
    simp only [hn, List.length_append, List.length_replicate]
    omega
  | case4 m hr ih => exact ih

/-- The cuts of a form get shorter. -/
theorem pairwise_cuts (form : ArrowForm) (text : Text) :
    (form.cuts text).Pairwise fun a b => b.1.length < a.1.length := by
  cases form with
  | exact word =>
    rw [ArrowForm.cuts]
    cases after? word text <;> simp
  | strokes tail stroke head =>
    rw [ArrowForm.cuts]
    split
    · exact List.Pairwise.nil
    · refine List.Pairwise.map _ ?_ (pairwise_strokeCuts ..)
      rintro ⟨a, r⟩ ⟨b, s⟩ h
      simpa using h

end Cuts

/-! ## The characters of an arrow -/

namespace ArrowForm

/-- The characters that a form draws. -/
def letters : ArrowForm → Text
  | exact arrow => arrow
  | strokes tail stroke head => tail ++ stroke :: head

/-- What every arrow of a form starts with. -/
def start : ArrowForm → Text
  | exact arrow => arrow
  | strokes tail stroke _ => tail ++ [stroke, stroke]

end ArrowForm

section Letters

variable {form : ArrowForm} {arrow x : Text}

theorem ArrowForm.Draws.mem_letters (h : form.Draws arrow) : ∀ c ∈ arrow, c ∈ form.letters := by
  intro c hc
  cases form with
  | exact word =>
    rw [ArrowForm.Draws] at h
    exact h ▸ hc
  | strokes tail stroke head =>
    obtain ⟨n, rfl⟩ := h
    rw [List.append_assoc] at hc
    rcases List.mem_append.mp hc with hc | hc
    · exact List.mem_append_left _ hc
    · rcases List.mem_append.mp hc with hc | hc
      · rw [List.eq_of_mem_replicate hc]
        simp [ArrowForm.letters]
      · simp [ArrowForm.letters, hc]

theorem letters_of_mem_arrows (h : form ∈ Edge.arrows) :
    ∀ c ∈ form.letters, isBlank c = false ∧ c ≠ '|' ∧ isCloser c = false := by
  have hall : ∀ form ∈ Edge.arrows,
      (form.letters.all fun c => !isBlank c && (c != '|' && !isCloser c)) = true := by
    decide
  simpa using hall form h

/-- No arrow holds a blank, a bar, or a closer. -/
theorem ArrowForm.Draws.letter (h : form.Draws arrow) (hf : form ∈ Edge.arrows) {c : Char} (hc : c ∈ arrow) :
    isBlank c = false ∧ c ≠ '|' ∧ isCloser c = false :=
  letters_of_mem_arrows hf c (h.mem_letters c hc)

/-- An arrow holds a dash or an equals sign. -/
theorem ArrowForm.Draws.stroke (h : form.Draws arrow) (hf : form ∈ Edge.arrows) : '-' ∈ arrow ∨ '=' ∈ arrow := by
  have hall : ∀ form ∈ Edge.arrows, match form with
      | .exact word => '-' ∈ word ∨ '=' ∈ word
      | .strokes _ stroke _ => stroke = '-' ∨ stroke = '=' := by
    simp [Edge.arrows]
  cases form with
  | exact word =>
    rw [ArrowForm.Draws] at h
    exact h ▸ hall _ hf
  | strokes tail stroke head =>
    obtain ⟨n, rfl⟩ := h
    have hstroke : stroke = '-' ∨ stroke = '=' := hall _ hf
    have hmem : stroke ∈ tail ++ List.replicate (n + 2) stroke ++ head := by simp
    rcases hstroke with rfl | rfl
    · exact Or.inl hmem
    · exact Or.inr hmem

theorem ArrowForm.Draws.ne_nil (h : form.Draws arrow) (hf : form ∈ Edge.arrows) : arrow ≠ [] := by
  rintro rfl
  rcases h.stroke hf with hc | hc <;> cases hc

/-- An arrow starts with a stroke or a tail, and a tail that is a letter has a dash behind it. -/
theorem ArrowForm.Draws.head (h : form.Draws arrow) (hf : form ∈ Edge.arrows) :
    ∃ a t, arrow = a :: t ∧ (a ∈ ['-', '=', '.', '<'] ∨ (a = 'o' ∨ a = 'x') ∧ t.head? = some '-') := by
  simp only [Edge.arrows, List.mem_cons, List.not_mem_nil, or_false] at hf
  rcases hf with rfl | rfl | rfl | rfl | rfl | rfl | rfl | rfl | rfl | rfl | rfl | rfl
  case inr.inr.inr.inr.inl => exact ⟨_, _, h, Or.inr ⟨Or.inl rfl, rfl⟩⟩
  case inr.inr.inr.inr.inr.inl => exact ⟨_, _, h, Or.inr ⟨Or.inr rfl, rfl⟩⟩
  all_goals first
    | exact ⟨_, _, h, Or.inl (by decide)⟩
    | exact h.elim fun n hn => ⟨_, _, hn, Or.inl (by decide)⟩

/-- No arrow reaches beyond a text that a blank or a bar follows. -/
theorem ArrowForm.Draws.within {behind rest : Text} (h : form.Draws arrow) (hf : form ∈ Edge.arrows)
    (hb : ∃ c t, behind = c :: t ∧ (isBlank c = true ∨ c = '|')) (he : x ++ behind = arrow ++ rest) :
    ∃ m, x = arrow ++ m := by
  rcases List.append_eq_append_iff.mp he with ⟨m, h1, h2⟩ | ⟨m, h1, _⟩
  · cases m with
    | nil => exact ⟨[], by rw [h1]; simp⟩
    | cons d m =>
      obtain ⟨c, t, hc, hcb⟩ := hb
      rw [hc] at h2
      rw [(List.cons.inj h2).1] at hcb
      have hno := h.letter hf (c := d) (by rw [h1]; simp)
      rcases hcb with hcb | hcb
      · rw [hno.1] at hcb
        cases hcb
      · exact absurd hcb hno.2.1
  · exact ⟨m, h1⟩

end Letters

/-! ## The order of the forms -/

section Order

variable {form : ArrowForm} {arrow : Text}

theorem ArrowForm.Draws.start_prefix (h : form.Draws arrow) : form.start <+: arrow := by
  cases form with
  | exact word =>
    rw [ArrowForm.Draws] at h
    rw [h]
    exact List.prefix_refl word
  | strokes tail stroke head =>
    obtain ⟨n, rfl⟩ := h
    exact ⟨List.replicate n stroke ++ head, by simp [ArrowForm.start, List.replicate_succ]⟩

theorem ArrowForm.Draws.mem_of_mem_letters (h : form.Draws arrow) : ∀ c ∈ form.letters, c ∈ arrow := by
  intro c hc
  cases form with
  | exact word =>
    rw [ArrowForm.Draws] at h
    exact h ▸ hc
  | strokes tail stroke head =>
    obtain ⟨n, rfl⟩ := h
    simp only [ArrowForm.letters, List.mem_append, List.mem_cons] at hc
    rcases hc with hc | rfl | hc
    · simp [hc]
    · simp
    · simp [hc]

/-- No arrow of a form starts an arrow of a later form: where their starts agree, it holds another character. -/
theorem ArrowForm.Draws.not_prefix {forms forms' : List ArrowForm} {form' : ArrowForm} {arrow' : Text}
    (hforms : Edge.arrows = forms ++ form :: forms') (hf' : form' ∈ forms') (h : form.Draws arrow)
    (h' : form'.Draws arrow') : ¬arrow <+: arrow' := by
  have hall : Edge.arrows.Pairwise fun f g =>
      ¬((f.start <+: g.start ∨ g.start <+: f.start) ∧ f.letters ⊆ g.letters) := by
    decide
  rw [hforms] at hall
  intro hp
  refine List.rel_of_pairwise_cons (List.pairwise_append.mp hall).2.1 hf' ⟨?_, fun c hc => ?_⟩
  · exact List.prefix_or_prefix_of_prefix (h.start_prefix.trans hp) h'.start_prefix
  · exact h'.mem_letters c (hp.subset (h.mem_of_mem_letters c hc))

end Order

end DiagramText
