import DiagramText.Proofs.Text.Trim
import DiagramText.Text.Choice

/-!
# Words in a text

- a word is in a text where the text is the word with something around it (`contains_iff`), and on one side of each
  character that it does not hold (`infix_append_cons_iff`);
- no word is chosen exactly where nothing can be read behind any of them (`firstOf?_eq_none_iff`);
- where no word starts a later one, the word that is chosen is the longest of those behind which something can be read
  (`firstOf?_eq_some_iff`).
-/

namespace DiagramText.Text

variable {α : Type} {words : List Text} {read : Text → Option α} {text word : Text} {a : α}

theorem contains_iff : contains word text = true ↔ word <:+: text := by
  have hstart : ∀ {text}, (after? word text).isSome = true ↔ word <+: text := by
    intro text
    rw [Option.isSome_iff_exists]
    exact exists_congr fun rest => after?_eq_some_iff.trans eq_comm
  induction text with
  | nil => rw [contains, List.isEmpty_iff, List.infix_nil]
  | cons c rest ih =>
    rw [contains, Bool.or_eq_true, List.infix_cons_iff]
    exact or_congr hstart ih

/-- A word without some character is on one side of this character. -/
theorem infix_append_cons_iff {x y : Text} {c : Char} (hc : c ∉ word) :
    word <:+: x ++ c :: y ↔ word <:+: x ∨ word <:+: y := by
  constructor
  · rintro ⟨s, t, he⟩
    rcases List.append_eq_append_iff.mp he with ⟨m, hm, -⟩ | ⟨m, hm, hy⟩
    · exact Or.inl ⟨s, m, hm.symm⟩
    · cases m with
      | nil => exact Or.inl ⟨s, [], by rw [List.append_nil, hm, List.append_nil]⟩
      | cons d m =>
        obtain ⟨rfl, rfl⟩ := List.cons.inj hy
        -- The character stands in front of the word.
        obtain ⟨q, -, hq⟩ := exists_append_of_not_mem_right hm ⟨c, m, rfl, hc⟩
        cases q with
        | nil => exact absurd (by rw [← List.nil_append word, ← hq]; exact List.mem_cons_self) hc
        | cons e q =>
          refine Or.inr ⟨q, t, ?_⟩
          rw [(List.cons.inj hq).2]
          rfl
  · rintro (h | h)
    · exact h.trans (List.prefix_append x _).isInfix
    · exact (h.trans (List.suffix_cons c y).isInfix).trans (List.suffix_append x _).isInfix

theorem firstOf?_eq_none_iff : firstOf? words read text = none ↔
    ∀ word ∈ words, ∀ rest, text = word ++ rest → read rest = none := by
  rw [firstOf?, List.findSome?_eq_none_iff]
  refine forall₂_congr fun word _ => ?_
  constructor
  · rintro hnone rest rfl
    rw [after?_eq_some_iff.mpr rfl] at hnone
    exact Option.map_eq_none_iff.mp hnone
  · intro hnone
    split
    · next rest hrest => exact Option.map_eq_none_iff.mpr (hnone rest (after?_eq_some_iff.mp hrest))
    · rfl

/-- Where no word starts a later one, the word that is chosen is the longest behind which something can be read. -/
theorem firstOf?_eq_some_iff (hp : words.Pairwise fun v w => ¬v <+: w) :
    firstOf? words read text = some (word, a) ↔ word ∈ words ∧ ∃ rest, text = word ++ rest ∧ read rest = some a ∧
      ∀ word' ∈ words, ∀ rest', text = word' ++ rest' → read rest' ≠ none → word'.length ≤ word.length := by
  constructor
  · intro h
    obtain ⟨hw, rest, ht, hread⟩ := firstOf?_eq_append h
    exact ⟨hw, rest, ht, hread, firstOf?_longest hp h⟩
  · rintro ⟨hw, rest, ht, hread, hlongest⟩
    have hsome : read rest ≠ none := by rw [hread]; exact Option.some_ne_none a
    have hfound : firstOf? words read text ≠ none := fun hnone =>
      hsome (firstOf?_eq_none_iff.mp hnone word hw rest ht)
    obtain ⟨⟨word', a'⟩, h⟩ := Option.ne_none_iff_exists'.mp hfound
    obtain ⟨hw', rest', ht', hread'⟩ := firstOf?_eq_append h
    have hle := firstOf?_longest hp h word hw rest ht hsome
    have hge := hlongest word' hw' rest' ht' (by rw [hread']; exact Option.some_ne_none a')
    obtain ⟨rfl, rfl⟩ := List.append_inj (ht.symm.trans ht') (Nat.le_antisymm hle hge)
    rw [h, Option.some.inj (hread.symm.trans hread')]

end DiagramText.Text
