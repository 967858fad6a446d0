import DiagramText.Proofs.Text.Keyword
import DiagramText.Text.Capital
import DiagramText.Text.Identifier

/-!
# Marks

A mark is a character of ASCII such as a newline, a dash, an equals sign or a parenthesis. Changing the case of letters
neither adds marks nor takes them away: no capital holds one (`eq_of_mem_upper`), so a text without a mark stays without
it (`not_mem_capitalize`, `not_mem_titleCase`), and no lower case is one (`eq_of_lowerLetter_eq`). Capitals of blanks
are blanks, and no others are (`isBlank_of_mem_upper`). Identifiers hold no marks and no blanks
(`not_mem_of_isIdentifier`, `isBlank_of_isIdentifierPart`).
-/

namespace DiagramText

open Text

variable {c m : Char} {text : Text}

/-- An ASCII character below the letters that is no part of an identifier, other than the space. -/
structure IsMark (c : Char) : Prop where
  pos : 0 < c.toNat
  low : c.toNat < 0x41
  part : isIdentifierPart c = false
  space : c ≠ ' '

theorem isMark_of (h : 0 < c.toNat ∧ c.toNat < 0x41 ∧ isIdentifierPart c = false ∧ c ≠ ' ') : IsMark c :=
  ⟨h.1, h.2.1, h.2.2.1, h.2.2.2⟩

theorem isMark_newline : IsMark '\n' := isMark_of (by decide)

/-! ## Letter case -/

section Case

/-- No code point of a capital lies below the letters. -/
theorem le_capital : (∀ run ∈ capitalRuns, 0x41 ≤ run.capital) ∧
    ∀ long ∈ longCapitals, ∀ n ∈ long.2, 0x41 ≤ n := by
  decide +kernel

theorem toNat_ofNat (n : Nat) : (Char.ofNat n).toNat = n ∨ (Char.ofNat n).toNat = 0 := by
  by_cases h : n.isValidChar
  · exact Or.inl (congrArg Char.toNat (dif_pos h))
  · exact Or.inr (congrArg Char.toNat (dif_neg h))

theorem IsMark.ne_ofNat (hm : IsMark m) {n : Nat} (hn : 0x41 ≤ n) : m ≠ Char.ofNat n := by
  rintro rfl
  have hpos := hm.pos
  have hlow := hm.low
  rcases toNat_ofNat n with he | he <;> omega

theorem mem_longCapitals {n : Nat} {capital : List Nat} (h : longCapitals.lookup n = some capital) :
    (n, capital) ∈ longCapitals := by
  obtain ⟨before, behind, hl, _⟩ := List.lookup_eq_some_iff.mp h
  rw [hl]
  exact List.mem_append_right _ List.mem_cons_self

/-- The capital of a character holds no mark but the character. -/
theorem eq_of_mem_upper (hm : IsMark m) (h : m ∈ upper c) : m = c := by
  unfold upper at h
  split at h
  · next capital hlong =>
    have hle := le_capital.2 (c.toNat, capital) (mem_longCapitals hlong)
    obtain ⟨n, hn, he⟩ := List.mem_map.mp h
    exact absurd he.symm (hm.ne_ofNat (hle n hn))
  · split at h
    · next run hrun =>
      have hle := le_capital.1 run (List.mem_of_find?_eq_some hrun)
      exact absurd (List.mem_singleton.mp h) (hm.ne_ofNat (by omega))
    · exact List.mem_singleton.mp h

/-- Neither the letters with a capital nor the capitals are blanks. -/
theorem holdsNoBlank_capital : (∀ run ∈ capitalRuns, holdsNoBlank run.first run.last = true ∧
      holdsNoBlank run.capital (run.capital + (run.last - run.first)) = true) ∧
    ∀ long ∈ longCapitals, long.2 ≠ [] ∧ holdsNoBlank long.1 long.1 = true ∧
      ∀ n ∈ long.2, holdsNoBlank n n = true := by
  decide +kernel

theorem isBlank_ofNat {first last n : Nat} (h : holdsNoBlank first last = true) (hfirst : first ≤ n)
    (hlast : n ≤ last) : isBlank (Char.ofNat n) = false := by
  rcases toNat_ofNat n with he | he
  · exact isBlank_of_holdsNoBlank h (by omega) (by omega)
  · have hzero : holdsNoBlank 0 0 = true := by decide
    exact isBlank_of_holdsNoBlank hzero (Nat.zero_le _) (by omega)

/-- The capital of a blank is the blank, and the capitals of other characters hold no blanks. -/
theorem isBlank_of_mem_upper {d : Char} (h : d ∈ upper c) : isBlank d = isBlank c := by
  unfold upper at h
  split at h
  · next capital hlong =>
    obtain ⟨-, hkey, hle⟩ := holdsNoBlank_capital.2 (c.toNat, capital) (mem_longCapitals hlong)
    obtain ⟨n, hn, rfl⟩ := List.mem_map.mp h
    rw [isBlank_of_holdsNoBlank hkey (Nat.le_refl _) (Nat.le_refl _),
      isBlank_ofNat (hle n hn) (Nat.le_refl _) (Nat.le_refl _)]
  · split at h
    · next run hrun =>
      obtain ⟨hletters, hcapitals⟩ := holdsNoBlank_capital.1 run (List.mem_of_find?_eq_some hrun)
      have hholds := List.find?_some hrun
      simp only [CaseRun.holds, Bool.and_eq_true, decide_eq_true_eq] at hholds
      obtain ⟨⟨hfirst, hlast⟩, -⟩ := hholds
      rw [List.mem_singleton.mp h, isBlank_of_holdsNoBlank hletters hfirst hlast,
        isBlank_ofNat hcapitals (Nat.le_add_right _ _) (by omega)]
    · rw [List.mem_singleton.mp h]

theorem upper_ne_nil (c : Char) : upper c ≠ [] := by
  unfold upper
  split
  · next capital hlong =>
    exact mt List.map_eq_nil_iff.mp (holdsNoBlank_capital.2 (c.toNat, capital) (mem_longCapitals hlong)).1
  · split <;> exact List.cons_ne_nil _ _

/-- No letter becomes a mark in lower case. -/
theorem eq_of_lowerLetter_eq (hm : IsMark m) (h : lowerLetter c = m) : c = m := by
  have hlow := hm.low
  unfold lowerLetter at h
  split at h
  · rw [← h] at hlow
    exact absurd hlow (by decide)
  · rcases toLower_eq_or c with he | ⟨_, _, he⟩
    · exact he.symm.trans h
    · rw [h] at he
      omega

theorem not_mem_capitalize (hm : IsMark m) (h : m ∉ text) : m ∉ capitalize text := by
  cases text with
  | nil => exact h
  | cons c rest =>
    rw [List.mem_cons, not_or] at h
    rw [capitalize, List.mem_append, not_or]
    exact ⟨fun hc => h.1 (eq_of_mem_upper hm hc), h.2⟩

/-- The characters of joined texts are those of the separator and of the texts. -/
theorem mem_intercalate {sep : Text} {texts : List Text} (h : c ∈ sep.intercalate texts) :
    c ∈ sep ∨ ∃ t ∈ texts, c ∈ t := by
  induction texts with
  | nil => cases h
  | cons t ts ih =>
    cases ts with
    | nil => exact Or.inr ⟨t, List.mem_cons_self, by simpa [List.intercalate] using h⟩
    | cons u us =>
      simp only [List.intercalate, List.intersperse_cons_cons, List.flatten_cons, List.mem_append] at h ih
      rcases h with h | h | h
      · exact Or.inr ⟨t, List.mem_cons_self, h⟩
      · exact Or.inl h
      · rcases ih h with hsep | ⟨v, hv, hc⟩
        · exact Or.inl hsep
        · exact Or.inr ⟨v, List.mem_cons_of_mem t hv, hc⟩

/-- The characters of a piece are those of its text. -/
theorem mem_of_mem_pieces {sep : Char} {piece : Text} (h : piece ∈ pieces sep text) (hc : c ∈ piece) : c ∈ text := by
  induction text generalizing piece with
  | nil =>
    rw [pieces, List.mem_singleton] at h
    rwa [h] at hc
  | cons d rest ih =>
    rw [pieces] at h
    split at h
    · rcases List.mem_cons.mp h with rfl | h
      · cases hc
      · exact List.mem_cons_of_mem d (ih h hc)
    · obtain ⟨p, ps, hp⟩ := List.exists_cons_of_ne_nil (pieces_ne_nil sep rest)
      simp only [hp, List.mem_cons] at h ih
      rcases h with rfl | h
      · rcases List.mem_cons.mp hc with rfl | hc
        · exact List.mem_cons_self
        · exact List.mem_cons_of_mem d (ih (Or.inl rfl) hc)
      · exact List.mem_cons_of_mem d (ih (Or.inr h) hc)

theorem not_mem_titleCase (hm : IsMark m) (h : m ∉ text) : m ∉ titleCase text := by
  intro hmem
  rcases mem_intercalate hmem with hsep | ⟨t, ht, hc⟩
  · exact hm.space (List.mem_singleton.mp hsep)
  · obtain ⟨piece, hp, rfl⟩ := List.mem_map.mp ht
    exact not_mem_capitalize hm (fun hin => h (mem_of_mem_pieces hp hin)) hc

end Case

/-! ## Identifiers -/

section Identifiers

theorem isIdentifierPart_of_start (h : isIdentifierStart c = true) : isIdentifierPart c = true := by
  rw [isIdentifierStart, Bool.or_eq_true] at h
  rw [isIdentifierPart, Bool.or_eq_true]
  exact h.imp_left fun h => (Bool.or_eq_true _ _).mpr (Or.inl h)

/-- The characters of identifiers are letters, digits and underscores. -/
theorem isBlank_of_isIdentifierPart (h : isIdentifierPart c = true) : isBlank c = false := by
  -- letters and digits are ranges of code points, compared as machine words
  have of_range : ∀ {low high : UInt32}, (decide (c.val ≥ low) && decide (c.val ≤ high)) = true →
      low.toNat ≤ c.toNat ∧ c.toNat ≤ high.toNat := by
    intro low high hr
    rw [Bool.and_eq_true, decide_eq_true_eq, decide_eq_true_eq] at hr
    exact hr
  have hrange : 48 ≤ c.toNat ∧ c.toNat ≤ 122 := by
    rcases (Bool.or_eq_true _ _).mp h with h | h
    · rcases (Bool.or_eq_true _ _).mp h with h | hdigit
      · rcases (Bool.or_eq_true _ _).mp h with hupper | hlower
        · have hr : 65 ≤ c.toNat ∧ c.toNat ≤ 90 := of_decide_eq_true hupper
          omega
        · have hr : 97 ≤ c.toNat ∧ c.toNat ≤ 122 := of_range hlower
          omega
      · have hr : 48 ≤ c.toNat ∧ c.toNat ≤ 57 := of_range hdigit
        omega
    · rw [beq_iff_eq.mp h]
      decide
  simp only [isBlank, Bool.or_eq_false_iff, Bool.and_eq_false_iff, decide_eq_false_iff_not, beq_eq_false_iff_ne]
  omega

/-- An identifier is a first character and others. -/
theorem isIdentifier_iff : isIdentifier text = true ↔ ∃ c rest, text = c :: rest ∧ isIdentifierStart c = true ∧
    ∀ d ∈ rest, isIdentifierPart d = true := by
  cases text with
  | nil => simp [isIdentifier]
  | cons c rest =>
    rw [isIdentifier, Bool.and_eq_true, List.all_eq_true]
    constructor
    · rintro ⟨hc, hrest⟩
      exact ⟨c, rest, rfl, hc, hrest⟩
    · rintro ⟨c', rest', he, hc, hrest⟩
      cases he
      exact ⟨hc, hrest⟩

theorem isIdentifierPart_of_mem (h : isIdentifier text = true) (hc : c ∈ text) : isIdentifierPart c = true := by
  obtain ⟨first, rest, rfl, hfirst, hrest⟩ := isIdentifier_iff.mp h
  rcases List.mem_cons.mp hc with rfl | hc
  · exact isIdentifierPart_of_start hfirst
  · exact hrest c hc

/-- An identifier is read up to the first character that is no part of it. -/
theorem identifier?_append (h : isIdentifier text = true) (hc : isIdentifierPart c = false) (behind : Text) :
    identifier? (text ++ c :: behind) = some (text, c :: behind) := by
  obtain ⟨first, rest, rfl, hfirst, hrest⟩ := isIdentifier_iff.mp h
  rw [List.cons_append, identifier?, if_pos hfirst, List.takeWhile_append_of_pos hrest,
    List.dropWhile_append_of_pos hrest, List.takeWhile_cons, List.dropWhile_cons, hc]
  simp

theorem isIdentifier_append {rest : Text} (h : isIdentifier text = true) (hr : ∀ c ∈ rest, isIdentifierPart c = true) :
    isIdentifier (text ++ rest) = true := by
  obtain ⟨c, part, rfl, hc, hpart⟩ := isIdentifier_iff.mp h
  refine isIdentifier_iff.mpr ⟨c, part ++ rest, rfl, hc, fun d hd => ?_⟩
  rcases List.mem_append.mp hd with hd | hd
  · exact hpart d hd
  · exact hr d hd

theorem ne_of_isIdentifierPart {d : Char} (h : isIdentifierPart c = true)
    (hd : isIdentifierPart d = false) : c ≠ d := by
  rintro rfl
  rw [h] at hd
  cases hd

/-- A part of an identifier is none of some characters that are no parts. -/
theorem not_mem_of_isIdentifierPart {marks : Text} (h : isIdentifierPart c = true)
    (hm : (marks.any isIdentifierPart) = false) : c ∉ marks := by
  intro hmem
  rw [List.any_eq_false] at hm
  exact hm c hmem h

theorem not_mem_of_isIdentifier (h : isIdentifier text = true) (hm : isIdentifierPart m = false) : m ∉ text := by
  intro hmem
  rw [isIdentifierPart_of_mem h hmem] at hm
  cases hm

theorem isTight_of_isIdentifier (h : isIdentifier text = true) : IsTight text := by
  obtain ⟨first, rest, htext, hfirst, _⟩ := isIdentifier_iff.mp h
  refine ⟨⟨not_mem_of_isIdentifier h isMark_newline.part, fun d hd => ?_⟩, first, rest, htext,
    isBlank_of_isIdentifierPart (isIdentifierPart_of_start hfirst)⟩
  exact isBlank_of_isIdentifierPart (isIdentifierPart_of_mem h (List.mem_of_getLast? hd))

/-- A line that starts with an identifier is no comment. -/
theorem comment_of_isIdentifier (h : isIdentifier text = true) (rest : Text) :
    (after? "%%".toList (text ++ rest)).isSome = false := by
  rw [Bool.eq_false_iff, Ne, Option.isSome_iff_exists]
  rintro ⟨behind, hr⟩
  obtain ⟨c, part, rfl, hc, -⟩ := isIdentifier_iff.mp h
  have hpercent : c = '%' := (List.cons.inj (after?_eq_some_iff.mp hr)).1
  rw [hpercent] at hc
  cases hc

/-- A text with an identifier at its end does not end in another character. -/
theorem getLast?_append_identifier_ne (before : Text) (h : isIdentifier text = true)
    (hc : isIdentifierPart c = false) : (before ++ text).getLast? ≠ some c := by
  intro hl
  have hne := (isTight_of_isIdentifier h).ne_nil
  rw [List.getLast?_append, List.getLast?_eq_some_getLast hne, Option.some_or, Option.some.injEq] at hl
  exact not_mem_of_isIdentifier h hc (hl ▸ List.getLast_mem hne)

theorem not_mem_gap_append {gap : Text} (hg : IsGap gap) (h : isIdentifier text = true)
    (hc : isIdentifierPart c = false) (hb : isBlank c = false) : c ∉ gap ++ text := by
  rw [List.mem_append, not_or]
  refine ⟨fun hm => ?_, not_mem_of_isIdentifier h hc⟩
  rw [hg c hm] at hb
  cases hb

end Identifiers

end DiagramText
