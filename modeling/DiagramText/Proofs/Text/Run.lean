import DiagramText.Text.Run

/-!
# Longest and shortest runs

- `longestRun` fails exactly where `read` fails behind every run (`longestRun_eq_none_iff`), and takes a run exactly
  where `read` succeeds behind it and fails behind all longer ones (`longestRun_eq_some_iff`);
- `shortestRun` does the same with the shorter ones (`shortestRun_eq_none_iff`, `shortestRun_eq_some_iff`), so a run
  behind which `read` succeeds starts with the one that is taken (`exists_shortestRun`).
-/

namespace DiagramText.Text

variable {α : Type} {p q : Char → Bool} {read : Text → Option α} {text run rest : Text} {a : α}

/-! ## The longest run -/

/-- A run of `p`-characters that ends in a `q`-character. -/
def EndsIn (p q : Char → Bool) (run : Text) : Prop :=
  run.all p = true ∧ ∃ c, run.getLast? = some c ∧ q c = true

/-- `run` is the longest run of `p`-characters, ended by a `q`-character, behind which `read` succeeds. -/
structure IsLongestRun (p q : Char → Bool) (read : Text → Option α) (run rest : Text) (a : α) : Prop where
  run : EndsIn p q run
  eq_some : read rest = some a
  longest : ∀ more rest', rest = more ++ rest' → EndsIn p q more → read rest' = none

section Longest

theorem EndsIn.ne_nil (h : EndsIn p q run) : run ≠ [] := by
  rintro rfl
  obtain ⟨c, hc, _⟩ := h.2
  cases hc

theorem EndsIn.append {more : Text} (h : run.all p = true) (hm : EndsIn p q more) : EndsIn p q (run ++ more) := by
  obtain ⟨hall, c, hc, hq⟩ := hm
  refine ⟨by rw [List.all_append, h, hall]; rfl, c, ?_, hq⟩
  rw [List.getLast?_append, hc]
  rfl

theorem EndsIn.head {c : Char} (h : EndsIn p q (c :: run)) : p c = true := by
  have := h.1
  rw [List.all_cons, Bool.and_eq_true] at this
  exact this.1

theorem EndsIn.last_of_singleton {c : Char} (h : EndsIn p q [c]) : q c = true := by
  obtain ⟨_, d, hd, hq⟩ := h
  have hcd : c = d := Option.some.inj hd
  rw [hcd]
  exact hq

/-- The end of a run is one, unless it is empty. -/
theorem EndsIn.of_append {more : Text} (h : EndsIn p q (run ++ more)) (hne : more ≠ []) : EndsIn p q more := by
  obtain ⟨hall, d, hd, hq⟩ := h
  rw [List.all_append, Bool.and_eq_true] at hall
  rw [List.getLast?_append, List.getLast?_eq_some_getLast hne, Option.some_or] at hd
  exact ⟨hall.2, d, List.getLast?_eq_some_getLast hne ▸ hd, hq⟩

theorem EndsIn.of_cons {c : Char} (h : EndsIn p q (c :: run)) (hne : run ≠ []) : EndsIn p q run :=
  EndsIn.of_append (show EndsIn p q ([c] ++ run) from h) hne

/-- No run is taken exactly where `read` fails behind every one. -/
theorem longestRun_eq_none_iff :
    longestRun p q read text = none ↔ ∀ run rest, text = run ++ rest → EndsIn p q run → read rest = none := by
  constructor
  · intro h run
    induction run generalizing text with
    | nil => exact fun _ _ hr => absurd rfl hr.ne_nil
    | cons c run ih =>
      rintro rest rfl hr
      rw [List.cons_append, longestRun, if_pos hr.head] at h
      cases hl : longestRun p q read (run ++ rest) with
      | some found =>
        rw [hl] at h
        cases h
      | none =>
        rw [hl] at h
        by_cases hne : run = []
        · subst hne
          simpa [hr.last_of_singleton] using h
        · exact ih hl rest rfl (hr.of_cons hne)
  · intro h
    cases hl : longestRun p q read text with
    | none => rfl
    | some found =>
      obtain ⟨rest, ht, hr, hall, hlast⟩ := longestRun_eq_append hl
      rw [h found.1 rest ht ⟨hall, hlast⟩] at hr
      cases hr

/-- A run is taken exactly where it is the longest. -/
theorem longestRun_eq_some_iff :
    longestRun p q read text = some (run, a) ↔ ∃ rest, text = run ++ rest ∧ IsLongestRun p q read run rest a := by
  constructor
  · intro h
    induction text generalizing run a with
    | nil => cases h
    | cons c text ih =>
      unfold longestRun at h
      split at h
      · next hp =>
        split at h
        · next run' a' hl =>
          cases h
          obtain ⟨rest, ht, hr⟩ := ih hl
          have hc : [c].all p = true := by simpa using hp
          exact ⟨rest, by rw [ht]; rfl, EndsIn.append hc hr.run, hr.eq_some, hr.longest⟩
        · next hl =>
          split at h
          · next hq =>
            obtain ⟨b, hb, h⟩ := Option.map_eq_some_iff.mp h
            cases h
            exact ⟨text, rfl, ⟨by simpa using hp, c, rfl, hq⟩, hb, longestRun_eq_none_iff.mp hl⟩
          · cases h
      · cases h
  · rintro ⟨rest, rfl, hr⟩
    obtain ⟨hrun, hread, hlongest⟩ := hr
    induction run with
    | nil => exact absurd rfl hrun.ne_nil
    | cons c run ih =>
      rw [List.cons_append, longestRun, if_pos hrun.head]
      by_cases hne : run = []
      · subst hne
        rw [List.nil_append, longestRun_eq_none_iff.mpr hlongest]
        simp [hrun.last_of_singleton, hread]
      · rw [ih (hrun.of_cons hne)]

/-- A longest run is one with more characters in front too: what is behind it decides. -/
theorem IsLongestRun.append {before : Text} (h : IsLongestRun p q read run rest a) (hb : before.all p = true) :
    IsLongestRun p q read (before ++ run) rest a :=
  ⟨h.run.append hb, h.eq_some, h.longest⟩

end Longest

/-! ## The shortest run -/

/-- `run` is the shortest non-empty run of `p`-characters behind which `read` succeeds. -/
structure IsShortestRun (p : Char → Bool) (read : Text → Option α) (run rest : Text) (a : α) : Prop where
  all : run.all p = true
  ne_nil : run ≠ []
  eq_some : read rest = some a
  shortest : ∀ less more, run = less ++ more → less ≠ [] → more ≠ [] → read (more ++ rest) = none

section Shortest

theorem IsShortestRun.singleton {c : Char} (hc : p c = true) (h : read rest = some a) :
    IsShortestRun p read [c] rest a := by
  refine ⟨by simpa using hc, by simp, h, fun less more hr hl hm => ?_⟩
  obtain ⟨d, less, rfl⟩ := List.exists_cons_of_ne_nil hl
  exact absurd (List.append_eq_nil_iff.mp (List.cons.inj hr).2.symm).2 hm

/-- A shortest run goes on in front where `read` fails behind the new character. -/
theorem IsShortestRun.cons {c : Char} (hc : p c = true) (h : IsShortestRun p read run rest a)
    (hnone : read (run ++ rest) = none) : IsShortestRun p read (c :: run) rest a := by
  refine ⟨by simp [hc, h.all], by simp, h.eq_some, fun less more he hl hm => ?_⟩
  obtain ⟨d, less, rfl⟩ := List.exists_cons_of_ne_nil hl
  have he' : run = less ++ more := (List.cons.inj he).2
  by_cases hl' : less = []
  · rw [hl', List.nil_append] at he'
    exact he' ▸ hnone
  · exact h.shortest less more he' hl' hm

theorem IsShortestRun.of_cons {c : Char} (h : IsShortestRun p read (c :: run) rest a) (hne : run ≠ []) :
    IsShortestRun p read run rest a ∧ read (run ++ rest) = none := by
  have hall := h.all
  rw [List.all_cons, Bool.and_eq_true] at hall
  refine ⟨⟨hall.2, hne, h.eq_some, fun less more he hl hm => ?_⟩, ?_⟩
  · exact h.shortest (c :: less) more (by rw [he]; rfl) (List.cons_ne_nil c less) hm
  · exact h.shortest [c] run rfl (List.cons_ne_nil c []) hne

/-- A run is taken exactly where it is the shortest. -/
theorem shortestRun_eq_some_iff :
    shortestRun p read text = some (run, a) ↔ ∃ rest, text = run ++ rest ∧ IsShortestRun p read run rest a := by
  constructor
  · intro h
    induction text generalizing run a with
    | nil => cases h
    | cons c text ih =>
      unfold shortestRun at h
      split at h
      · next hp =>
        split at h
        · next b hb =>
          cases h
          exact ⟨text, rfl, IsShortestRun.singleton hp hb⟩
        · next hb =>
          obtain ⟨⟨run', a'⟩, hs, h⟩ := Option.map_eq_some_iff.mp h
          cases h
          obtain ⟨rest, ht, hr⟩ := ih hs
          exact ⟨rest, by rw [ht]; rfl, hr.cons hp (ht ▸ hb)⟩
      · cases h
  · rintro ⟨rest, rfl, hr⟩
    induction run with
    | nil => exact absurd rfl hr.ne_nil
    | cons c run ih =>
      have hc := (List.all_eq_true.mp hr.all) c List.mem_cons_self
      rw [List.cons_append, shortestRun, if_pos hc]
      by_cases hne : run = []
      · subst hne
        rw [List.nil_append, hr.eq_some]
      · obtain ⟨hr', hnone⟩ := hr.of_cons hne
        rw [hnone, ih hr']
        rfl

/-- A run behind which `read` succeeds starts with the shortest one. -/
theorem exists_shortestRun (hall : run.all p = true) (hne : run ≠ []) (h : read rest ≠ none) :
    ∃ less more b, run = less ++ more ∧ IsShortestRun p read less (more ++ rest) b := by
  induction run with
  | nil => exact absurd rfl hne
  | cons c run ih =>
    rw [List.all_cons, Bool.and_eq_true] at hall
    cases hb : read (run ++ rest) with
    | some b => exact ⟨[c], run, b, rfl, IsShortestRun.singleton hall.1 hb⟩
    | none =>
      have hne' : run ≠ [] := by
        rintro rfl
        exact h hb
      obtain ⟨less, more, b, rfl, hs⟩ := ih hall.2 hne'
      rw [List.append_assoc] at hb
      exact ⟨c :: less, more, b, rfl, hs.cons hall.1 hb⟩

/-- No run is taken exactly where `read` fails behind every one. -/
theorem shortestRun_eq_none_iff : shortestRun p read text = none ↔
    ∀ run rest, text = run ++ rest → run.all p = true → run ≠ [] → read rest = none := by
  constructor
  · rintro hnone run rest rfl hall hne
    refine Classical.byContradiction fun hread => ?_
    obtain ⟨less, more, b, rfl, hs⟩ := exists_shortestRun hall hne hread
    rw [shortestRun_eq_some_iff.mpr ⟨more ++ rest, List.append_assoc .., hs⟩] at hnone
    cases hnone
  · intro hnone
    refine Option.eq_none_iff_forall_ne_some.mpr fun ⟨run, a⟩ h => ?_
    obtain ⟨rest, ht, hs⟩ := shortestRun_eq_some_iff.mp h
    have hread := hs.eq_some
    rw [hnone run rest ht hs.all hs.ne_nil] at hread
    cases hread

end Shortest

end DiagramText.Text
