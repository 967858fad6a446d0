import DiagramText.Text.Basic

/-!
# Runs of characters

A reader often takes a run of characters whose end is only settled by what can be read behind it.

- `longestRun p q read` takes the longest run of `p`-characters, ended by a `q`-character, behind which `read`
  succeeds (`longestRun_eq_append`);
- `shortestRun p read` takes the shortest non-empty run of `p`-characters behind which `read` succeeds.
-/

namespace DiagramText

variable {α : Type}

namespace Text

/-- The longest run of `p`-characters that ends in a `q`-character and behind which `read` succeeds, with what `read`
makes of the rest. -/
def longestRun (p q : Char → Bool) (read : Text → Option α) : Text → Option (Text × α)
  | [] => none
  | c :: rest =>
    if p c then
      match longestRun p q read rest with
      | some (run, a) => some (c :: run, a)
      | none => if q c then (read rest).map ([c], ·) else none
    else none

/-- The shortest non-empty run of `p`-characters behind which `read` succeeds, with what `read` makes of the rest. -/
def shortestRun (p : Char → Bool) (read : Text → Option α) : Text → Option (Text × α)
  | [] => none
  | c :: rest =>
    if p c then
      match read rest with
      | some a => some ([c], a)
      | none => (shortestRun p read rest).map fun (run, a) => (c :: run, a)
    else none

/-- A run that `longestRun` takes starts the text, consists of `p`-characters, ends in a `q`-character, and `read`
succeeds behind it. -/
theorem longestRun_eq_append {p q : Char → Bool} {read : Text → Option α} {text run : Text} {a : α}
    (h : longestRun p q read text = some (run, a)) :
    ∃ rest, text = run ++ rest ∧ read rest = some a ∧ run.all p ∧ ∃ c, run.getLast? = some c ∧ q c := by
  induction text generalizing run a with
  | nil => simp [longestRun] at h
  | cons c rest ih =>
    rw [longestRun] at h
    split at h
    · next hp =>
      split at h
      · next run' a' h' =>
        obtain ⟨rfl, rfl⟩ := Prod.mk.injEq .. ▸ Option.some.inj h
        obtain ⟨s, hs, hr, hall, d, hd, hq⟩ := ih h'
        refine ⟨s, by simp [hs], hr, by simp [hp, hall], d, ?_, hq⟩
        rw [List.getLast?_cons, hd]; rfl
      · split at h
        · next hq =>
          obtain ⟨a', ha, h⟩ := Option.map_eq_some_iff.mp h
          obtain ⟨rfl, rfl⟩ := Prod.mk.injEq .. ▸ h
          exact ⟨rest, rfl, ha, by simp [hp], c, rfl, hq⟩
        · simp at h
    · simp at h

end Text

end DiagramText
