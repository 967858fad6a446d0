import DiagramText.Text.Basic

/-!
# Choices between words

`Text.firstOf?` reads one of several words and what stands behind it. The words are tried in their order, and a word
counts only if the rest of the text can be read behind it (`firstOf?_eq_append`). Where no word starts a later one, the
word that is taken is the longest (`firstOf?_longest`).
-/

namespace DiagramText

variable {α : Type}

namespace Text

/-- The first of some words that a text starts with and behind which `read` succeeds, and what `read` makes of the
rest. -/
def firstOf? (words : List Text) (read : Text → Option α) (text : Text) : Option (Text × α) :=
  words.findSome? fun word =>
    match after? word text with
    | some rest => (read rest).map (word, ·)
    | none => none

/-- A word that `firstOf?` takes is one of the words and starts the text, and `read` succeeds behind it. -/
theorem firstOf?_eq_append {words : List Text} {read : Text → Option α} {text word : Text} {a : α}
    (h : firstOf? words read text = some (word, a)) :
    word ∈ words ∧ ∃ rest, text = word ++ rest ∧ read rest = some a := by
  obtain ⟨w, hw, h⟩ := List.exists_of_findSome?_eq_some h
  split at h
  · next rest hrest =>
    obtain ⟨a', ha, h⟩ := Option.map_eq_some_iff.mp h
    obtain ⟨rfl, rfl⟩ := Prod.mk.injEq .. ▸ h
    exact ⟨hw, rest, after?_eq_some_iff.mp hrest, ha⟩
  · simp at h

/-- Where no word starts a later one, no word behind which `read` succeeds is longer than the one that is taken. -/
theorem firstOf?_longest {words : List Text} {read : Text → Option α} {text word : Text} {a : α}
    (hp : words.Pairwise fun v w => ¬v <+: w) (h : firstOf? words read text = some (word, a)) :
    ∀ word' ∈ words, ∀ rest, text = word' ++ rest → read rest ≠ none → word'.length ≤ word.length := by
  rintro word' hw rest rfl hread
  obtain ⟨before, w, behind, rfl, hsome, hnone⟩ := List.findSome?_eq_some_iff.mp h
  have hfound : w = word ∧ ∃ rest', word' ++ rest = word ++ rest' := by
    split at hsome
    · next rest' hrest =>
      obtain ⟨a', _, he⟩ := Option.map_eq_some_iff.mp hsome
      cases he
      exact ⟨rfl, rest', after?_eq_some_iff.mp hrest⟩
    · cases hsome
  obtain ⟨rfl, rest', he⟩ := hfound
  rcases List.mem_append.mp hw with hw | hw
  · have := hnone word' hw
    rw [after?_eq_some_iff.mpr rfl] at this
    exact absurd (Option.map_eq_none_iff.mp this) hread
  · rcases List.mem_cons.mp hw with rfl | hw
    · exact Nat.le_refl _
    · have hno := List.rel_of_pairwise_cons (List.pairwise_append.mp hp).2.1 hw
      rcases List.append_eq_append_iff.mp he with ⟨m, hm, _⟩ | ⟨m, hm, _⟩
      · rw [hm, List.length_append]
        exact Nat.le_add_right _ _
      · exact absurd ⟨m, hm.symm⟩ hno

end Text

end DiagramText
