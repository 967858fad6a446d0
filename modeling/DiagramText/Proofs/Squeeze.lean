import DiagramText.Page

/-!
# Squeezed entries

- `gaps` counts the blanks between each entry of a list and the next one, and squeezing leaves one of them where there
  was any (`gaps_squeeze`), none at the start and none at the end (`squeeze_eq_nil_or_cons`, `last_squeeze`);
- `threaded` passes over the entries with a state, as a layout does with its depth, and squeezing commutes with it
  (`squeeze_threaded`);
- entries may be left out before or after squeezing (`squeeze_filter_squeeze`).
-/

namespace DiagramText

variable {α β σ : Type}

/-- The numbers of blanks (`none`) between each entry and the next one, where `n` blanks stand behind the last entry
before the list. -/
def gapsBehind (n : Nat) : List (Option α) → List Nat
  | [] => []
  | none :: rest => gapsBehind (n + 1) rest
  | some _ :: rest => n :: gapsBehind 0 rest

/-- The numbers of blanks (`none`) between each entry of a list and the next one. -/
def gaps : List (Option α) → List Nat
  | [] => []
  | none :: rest => gaps rest
  | some _ :: rest => gapsBehind 0 rest

/-- A list where a step replaces each entry and passes a state on to the next one; blanks (`none`) stay. -/
def threaded (step : σ → α → σ × β) : σ → List (Option α) → List (Option β)
  | _, [] => []
  | s, none :: rest => none :: threaded step s rest
  | s, some a :: rest => some (step s a).2 :: threaded step (step s a).1 rest

/-! ## Counted blanks -/

section Gaps

/-- A counted run of blanks leaves one blank, and none where it is empty. -/
theorem gapsBehind_separated (xs : List (Option α)) (n : Nat) :
    gapsBehind 0 (separated (decide (0 < n)) xs) = (gapsBehind n xs).map (min · 1) := by
  induction xs generalizing n with
  | nil => rfl
  | cons x xs ih =>
    cases x with
    | none =>
      have h := ih (n + 1)
      rw [decide_eq_true (Nat.succ_pos n)] at h
      exact h
    | some a =>
      have h : gapsBehind 0 (separated false xs) = (gapsBehind 0 xs).map (min · 1) := ih 0
      cases n with
      | zero => simp [separated, gapsBehind, h]
      | succ n => simp [separated, gapsBehind, h]

/-- Squeezing leaves one blank between two entries that had any between them. -/
theorem gaps_squeeze (xs : List (Option α)) : gaps (squeeze xs) = (gaps xs).map (min · 1) := by
  induction xs with
  | nil => rfl
  | cons x xs ih =>
    cases x with
    | none => exact ih
    | some a => exact gapsBehind_separated xs 0

end Gaps

/-! ## Passes over the entries -/

section Passes

theorem gapsBehind_threaded (step : σ → α → σ × β) (xs : List (Option α)) (s : σ) (n : Nat) :
    gapsBehind n (threaded step s xs) = gapsBehind n xs := by
  induction xs generalizing s n with
  | nil => rfl
  | cons x xs ih =>
    cases x with
    | none => exact ih s (n + 1)
    | some a => exact congrArg (n :: ·) (ih _ 0)

/-- A pass over the entries keeps the blanks between them. -/
theorem gaps_threaded (step : σ → α → σ × β) (xs : List (Option α)) (s : σ) :
    gaps (threaded step s xs) = gaps xs := by
  induction xs generalizing s with
  | nil => rfl
  | cons x xs ih =>
    cases x with
    | none => exact ih s
    | some a => exact gapsBehind_threaded step xs _ 0

theorem separated_threaded (step : σ → α → σ × β) (xs : List (Option α)) (s : σ) (p : Bool) :
    separated p (threaded step s xs) = threaded step s (separated p xs) := by
  induction xs generalizing s p with
  | nil => rfl
  | cons x xs ih =>
    cases x with
    | none => exact ih s true
    | some a => cases p <;> simp [separated, threaded, ih]

/-- Squeezing commutes with a pass over the entries that keeps the blanks where they are. -/
theorem squeeze_threaded (step : σ → α → σ × β) (xs : List (Option α)) (s : σ) :
    squeeze (threaded step s xs) = threaded step s (squeeze xs) := by
  induction xs generalizing s with
  | nil => rfl
  | cons x xs ih =>
    cases x with
    | none => exact ih s
    | some a => simp [squeeze, threaded, separated_threaded]

/-- A change of the entries is a pass without a state. -/
theorem map_eq_threaded (f : α → β) (xs : List (Option α)) :
    xs.map (·.map f) = threaded (fun (_ : Unit) a => ((), f a)) () xs := by
  induction xs with
  | nil => rfl
  | cons x xs ih =>
    cases x with
    | none => exact congrArg (none :: ·) ih
    | some a => exact congrArg (some (f a) :: ·) ih

theorem length_threaded (step : σ → α → σ × β) (xs : List (Option α)) (s : σ) :
    (threaded step s xs).length = xs.length := by
  induction xs generalizing s with
  | nil => rfl
  | cons x xs ih =>
    cases x with
    | none => exact congrArg (· + 1) (ih s)
    | some a => exact congrArg (· + 1) (ih _)

theorem threaded_eq_nil_iff {step : σ → α → σ × β} {xs : List (Option α)} {s : σ} :
    threaded step s xs = [] ↔ xs = [] := by
  cases xs with
  | nil => exact iff_of_true rfl rfl
  | cons x xs => cases x <;> simp [threaded]

/-- What a step makes of an entry in every state, a pass makes of all entries. -/
theorem map_threaded {γ : Type} {step : σ → α → σ × β} {f : β → γ} {g : α → γ} (h : ∀ s a, f (step s a).2 = g a)
    (xs : List (Option α)) (s : σ) : (threaded step s xs).map (·.map f) = xs.map (·.map g) := by
  induction xs generalizing s with
  | nil => rfl
  | cons x xs ih =>
    cases x with
    | none => exact congrArg (none :: ·) (ih s)
    | some a =>
      rw [threaded, List.map_cons, List.map_cons, Option.map_some, Option.map_some, h, ih]

/-- Passes whose steps agree on the entries are the same. -/
theorem threaded_congr {step step' : σ → α → σ × β} {xs : List (Option α)}
    (h : ∀ a, some a ∈ xs → ∀ s, step s a = step' s a) (s : σ) : threaded step s xs = threaded step' s xs := by
  induction xs generalizing s with
  | nil => rfl
  | cons x xs ih =>
    have ih' := ih fun a ha => h a (List.mem_cons_of_mem x ha)
    cases x with
    | none => exact congrArg (none :: ·) (ih' s)
    | some a => simp only [threaded, h a List.mem_cons_self, ih']

/-- A pass over changed entries changes each of them first. -/
theorem threaded_map {γ : Type} (step : σ → β → σ × γ) (f : α → β) (xs : List (Option α)) (s : σ) :
    threaded step s (xs.map (·.map f)) = threaded (fun s a => step s (f a)) s xs := by
  induction xs generalizing s with
  | nil => rfl
  | cons x xs ih =>
    cases x with
    | none => exact congrArg (none :: ·) (ih s)
    | some a => exact congrArg (some _ :: ·) (ih _)

theorem entries_map (f : α → β) (xs : List (Option α)) : (xs.map (·.map f)).filterMap id = (xs.filterMap id).map f := by
  rw [List.filterMap_map, List.map_filterMap]
  rfl

/-- A change of the entries keeps the blanks between them. -/
theorem gaps_map (f : α → β) (xs : List (Option α)) : gaps (xs.map (·.map f)) = gaps xs := by
  rw [map_eq_threaded, gaps_threaded]

/-- Squeezing commutes with a change of the entries. -/
theorem squeeze_map (f : α → β) (xs : List (Option α)) : squeeze (xs.map (·.map f)) = (squeeze xs).map (·.map f) := by
  rw [map_eq_threaded, squeeze_threaded, ← map_eq_threaded]

end Passes

/-! ## Left out entries -/

section Filter

theorem separated_filter (keep : α → Bool) (xs : List (Option α)) (p q : Bool) :
    separated p ((separated q xs).filter (·.all keep)) = separated (p || q) (xs.filter (·.all keep)) := by
  induction xs generalizing p q with
  | nil => rfl
  | cons x xs ih =>
    cases x with
    | none => simp [separated, ih]
    | some a =>
      cases hk : keep a with
      | true => cases q <;> simp [separated, hk, ih]
      | false => cases q <;> simp [separated, hk, ih]

theorem squeeze_filter_separated (keep : α → Bool) (xs : List (Option α)) (q : Bool) :
    squeeze ((separated q xs).filter (·.all keep)) = squeeze (xs.filter (·.all keep)) := by
  induction xs generalizing q with
  | nil => rfl
  | cons x xs ih =>
    cases x with
    | none => exact ih true
    | some a =>
      cases hk : keep a with
      | true => cases q <;> simp [separated, squeeze, hk, separated_filter]
      | false => cases q <;> simp [separated, squeeze, hk, ih]

/-- Whether entries are left out before or after the blanks are squeezed does not matter, once they are squeezed. -/
theorem squeeze_filter_squeeze (keep : α → Bool) (xs : List (Option α)) :
    squeeze ((squeeze xs).filter (·.all keep)) = squeeze (xs.filter (·.all keep)) := by
  induction xs with
  | nil => rfl
  | cons x xs ih =>
    cases x with
    | none => exact ih
    | some a =>
      cases hk : keep a with
      | true => simp [squeeze, hk, separated_filter]
      | false => simp [squeeze, hk, squeeze_filter_separated]

end Filter

/-! ## Ends -/

section Ends

theorem separated_append_blanks {ys : List (Option α)} (h : ∀ y ∈ ys, y = none) (xs : List (Option α)) (p : Bool) :
    separated p (xs ++ ys) = separated p xs := by
  induction xs generalizing p with
  | nil =>
    induction ys generalizing p with
    | nil => rfl
    | cons y ys ih =>
      rw [h y List.mem_cons_self]
      exact ih (fun z hz => h z (List.mem_cons_of_mem y hz)) true
  | cons x xs ih =>
    cases x with
    | none => exact ih true
    | some a => cases p <;> simp [separated, ih]

/-- Blanks at the start are dropped. -/
theorem squeeze_blanks_append {ys : List (Option α)} (h : ∀ y ∈ ys, y = none) (xs : List (Option α)) :
    squeeze (ys ++ xs) = squeeze xs := by
  induction ys with
  | nil => rfl
  | cons y ys ih =>
    rw [h y List.mem_cons_self]
    exact ih fun z hz => h z (List.mem_cons_of_mem y hz)

/-- Blanks at the end are dropped. -/
theorem squeeze_append_blanks {ys : List (Option α)} (h : ∀ y ∈ ys, y = none) (xs : List (Option α)) :
    squeeze (xs ++ ys) = squeeze xs := by
  induction xs with
  | nil =>
    have := squeeze_blanks_append h []
    rwa [List.append_nil] at this
  | cons x xs ih =>
    cases x with
    | none => exact ih
    | some a => simp [squeeze, separated_append_blanks h]

theorem some_mem_squeeze {xs : List (Option α)} {a : α} : some a ∈ squeeze xs ↔ some a ∈ xs := by
  have h := entries_squeeze xs
  have : ∀ ys : List (Option α), some a ∈ ys ↔ a ∈ ys.filterMap id := by simp
  rw [this, this, h]

/-- Squeezed entries do not start with a blank. -/
theorem squeeze_eq_nil_or_cons (xs : List (Option α)) : squeeze xs = [] ∨ ∃ a rest, squeeze xs = some a :: rest := by
  induction xs with
  | nil => exact Or.inl rfl
  | cons x xs ih =>
    cases x with
    | none => exact ih
    | some a => exact Or.inr ⟨a, _, rfl⟩

theorem last_separated (xs : List (Option α)) (p : Bool) {x : Option α} (h : (separated p xs).getLast? = some x) :
    x.isSome = true := by
  induction xs generalizing p with
  | nil => cases h
  | cons y xs ih =>
    cases y with
    | none => exact ih true h
    | some a =>
      rw [separated, List.getLast?_append, List.getLast?_cons] at h
      cases hl : (separated false xs).getLast? with
      | none =>
        rw [hl] at h
        cases h
        rfl
      | some y =>
        rw [hl] at h
        cases h
        exact ih false hl

/-- Squeezed entries do not end with a blank. -/
theorem last_squeeze (xs : List (Option α)) {x : Option α} (h : (squeeze xs).getLast? = some x) : x.isSome = true := by
  induction xs with
  | nil => cases h
  | cons y xs ih =>
    cases y with
    | none => exact ih h
    | some a => exact last_separated (some a :: xs) false h

end Ends

/-! ## Parts -/

section Parts

theorem separated_append {xs : List (Option α)} {a : α} (h : xs.getLast? = some (some a)) (ys : List (Option α))
    (p : Bool) : separated p (xs ++ ys) = separated p xs ++ separated false ys := by
  induction xs generalizing p with
  | nil => cases h
  | cons x xs ih =>
    by_cases hne : xs = []
    · subst hne
      cases h
      cases p <;> rfl
    · have hlast : xs.getLast? = some (some a) := by
        rw [List.getLast?_cons, List.getLast?_eq_some_getLast hne] at h
        rw [List.getLast?_eq_some_getLast hne]
        exact h
      cases x with
      | none => exact ih hlast true
      | some b => cases p <;> simp [separated, ih hlast]

theorem separated_of_squeezed {xs : List (Option α)} (h : squeeze xs = xs) (hne : xs ≠ []) (p : Bool) :
    separated p xs = (if p then [none] else []) ++ xs := by
  rcases squeeze_eq_nil_or_cons xs with hs | ⟨a, rest, hs⟩
  · exact absurd (h.symm.trans hs) hne
  · have hxs : xs = some a :: rest := h.symm.trans hs
    rw [hxs, squeeze] at h
    rw [hxs, separated, (List.cons.inj h).2]

/-- Squeezed parts behind an entry stay squeezed with a single blank between them. -/
theorem squeeze_parts {xs ys : List (Option α)} (a : α) (hx : squeeze xs = xs) (hy : squeeze ys = ys) :
    squeeze (some a :: (xs ++ ((if xs = [] ∨ ys = [] then [] else [none]) ++ ys))) =
      some a :: (xs ++ ((if xs = [] ∨ ys = [] then [] else [none]) ++ ys)) := by
  have hself : ∀ zs : List (Option α), squeeze zs = zs → separated false zs = zs := by
    intro zs hz
    by_cases hne : zs = []
    · rw [hne]
      rfl
    · exact separated_of_squeezed hz hne false
  unfold squeeze
  refine congrArg (some a :: ·) ?_
  by_cases hxn : xs = []
  · simpa [hxn] using hself ys hy
  · by_cases hyn : ys = []
    · simpa [hyn] using hself xs hx
    · obtain ⟨b, hb⟩ : ∃ b, xs.getLast? = some (some b) := by
        cases hl : xs.getLast? with
        | none => exact absurd (List.getLast?_eq_none_iff.mp hl) hxn
        | some z =>
          rw [← hx] at hl
          obtain ⟨b, rfl⟩ := Option.isSome_iff_exists.mp (last_squeeze xs hl)
          exact ⟨b, rfl⟩
      have hcond : ¬(xs = [] ∨ ys = []) := not_or.mpr ⟨hxn, hyn⟩
      rw [if_neg hcond, separated_append hb, hself xs hx]
      exact congrArg (xs ++ ·) (separated_of_squeezed hy hyn true)

end Parts

/-! ## Inserted entries -/

section Insertion

/-- Separating entries leaves out blanks only. -/
theorem separated_sublist (xs : List (Option α)) (p : Bool) :
    List.Sublist (separated p xs) ((if p then [none] else []) ++ xs) := by
  induction xs generalizing p with
  | nil => exact List.nil_sublist _
  | cons x xs ih =>
    cases x with
    | none => exact (ih true).trans (List.sublist_append_right _ (none :: xs))
    | some a => exact List.Sublist.append (List.Sublist.refl _) ((ih false).cons_cons (some a))

/-- Squeezing leaves out blanks only. -/
theorem squeeze_sublist (xs : List (Option α)) : List.Sublist (squeeze xs) xs := by
  induction xs with
  | nil => exact List.Sublist.refl []
  | cons x xs ih =>
    cases x with
    | none => exact ih.cons none
    | some a => exact (separated_sublist xs false).cons_cons (some a)

theorem squeeze_append {xs : List (Option α)} {a : α} (h : xs.getLast? = some (some a)) (ys : List (Option α)) :
    squeeze (xs ++ ys) = squeeze xs ++ separated false ys := by
  induction xs with
  | nil => cases h
  | cons x xs ih =>
    cases x with
    | none =>
      cases xs with
      | nil => cases h
      | cons y xs => exact ih h
    | some b =>
      cases xs with
      | nil => rfl
      | cons y xs =>
        rw [List.getLast?_cons_cons] at h
        exact congrArg (some b :: ·) (separated_append h ys false)

/-- An entry put behind another one leaves squeezed entries squeezed. -/
theorem squeeze_insert {xs ys : List (Option α)} {a : α} (h : squeeze (xs ++ ys) = xs ++ ys)
    (hlast : xs.getLast? = some (some a)) (b : α) : squeeze (xs ++ some b :: ys) = xs ++ some b :: ys := by
  rw [squeeze_append hlast] at h ⊢
  have hlength : (squeeze xs).length = xs.length := by
    have hxs := (squeeze_sublist xs).length_le
    have hys : (separated false ys).length ≤ ys.length := (separated_sublist ys false).length_le
    have hall := congrArg List.length h
    rw [List.length_append, List.length_append] at hall
    omega
  obtain ⟨hxs, hys⟩ := List.append_inj h hlength
  show squeeze xs ++ some b :: separated false ys = xs ++ some b :: ys
  rw [hxs, hys]

end Insertion

end DiagramText
