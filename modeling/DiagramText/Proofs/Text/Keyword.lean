import DiagramText.Proofs.Text.Trim
import DiagramText.Text.Case

/-!
# Keywords

- Neither folding turns a blank into something else or something else into a blank (`isBlank_lowerLetter`,
  `isBlank_foldLetter`);
- a text starts with a keyword exactly where its first word, lower-cased, is the keyword (`startsWithKeyword_iff`), so
  what stands behind the first blank does not matter (`startsWithKeyword_append_blank`).
-/

namespace DiagramText

namespace Text

/-- The characters of a text before its first blank. -/
def firstWord (text : Text) : Text :=
  text.takeWhile (!isBlank ·)

end Text

open Text

variable {word : String} {text rest : Text} {c : Char}

/-! ## Folded characters -/

section Folding

/-- A capital of ASCII becomes the letter 32 places behind it, and any other character stays as it is. -/
theorem toLower_eq_or (c : Char) :
    c.toLower = c ∨ 65 ≤ c.toNat ∧ c.toNat ≤ 90 ∧ c.toLower.toNat = c.toNat + 32 := by
  delta Char.toLower
  split
  · next h =>
    have hlow : 65 ≤ c.toNat := h.1
    have hhigh : c.toNat ≤ 90 := h.2
    refine Or.inr ⟨hlow, hhigh, ?_⟩
    show (c.val + ('a'.val - 'A'.val)).toNat = c.toNat + 32
    rw [UInt32.toNat_add]
    exact Nat.mod_eq_of_lt (by show c.toNat + 32 < _; omega)
  · exact Or.inl rfl

theorem isBlank_toLower (c : Char) : isBlank c.toLower = isBlank c := by
  have hblank : ∀ d : Char, 65 ≤ d.toNat → d.toNat ≤ 122 → isBlank d = false := by
    intro d hd1 hd2
    simp only [isBlank, Bool.or_eq_false_iff, Bool.and_eq_false_iff, decide_eq_false_iff_not, beq_eq_false_iff_ne]
    omega
  rcases toLower_eq_or c with h | ⟨hlow, hhigh, h⟩
  · rw [h]
  · rw [hblank c hlow (by omega), hblank c.toLower (by omega) (by omega)]

theorem isBlank_lowerLetter (c : Char) : isBlank (lowerLetter c) = isBlank c := by
  unfold lowerLetter
  split
  · next h => rw [h]; rfl
  · exact isBlank_toLower c

theorem isBlank_foldLetter (c : Char) : isBlank (foldLetter c) = isBlank c := by
  unfold foldLetter
  split
  · next h => rw [h]; rfl
  · exact isBlank_lowerLetter c

/-- No character but the space is a space in lower case. -/
theorem eq_space_of_lowerLetter_eq {c : Char} (h : lowerLetter c = ' ') : c = ' ' := by
  unfold lowerLetter at h
  split at h
  · cases h
  · rcases toLower_eq_or c with he | ⟨hlow, -, he⟩
    · exact he.symm.trans h
    · rw [h] at he
      have hspace : ' '.toNat = 32 := rfl
      omega

/-- Both foldings read a word alike that has neither an `s` nor the long one. -/
theorem map_foldLetter_iff {read word : Text} (hs : 's' ∉ word) (hlong : '\u017F' ∉ word) :
    read.map foldLetter = word ↔ read.map lowerLetter = word := by
  have hsame : (∀ c ∈ read, c ≠ '\u017F') → read.map foldLetter = read.map lowerLetter :=
    fun h => List.map_congr_left fun c hc => if_neg (h c hc)
  constructor
  · rintro rfl
    refine (hsame ?_).symm
    rintro c hc rfl
    exact hs (List.mem_map.mpr ⟨_, hc, by decide⟩)
  · rintro rfl
    refine hsame ?_
    rintro c hc rfl
    exact hlong (List.mem_map.mpr ⟨_, hc, by decide⟩)

end Folding

/-! ## First words -/

section FirstWord

theorem firstWord_append_of_not_blank {read : Text} (hr : ∀ c ∈ read, isBlank c = false)
    (h : rest = [] ∨ ∃ c s, rest = c :: s ∧ isBlank c = true) : firstWord (read ++ rest) = read := by
  have hp : ∀ c ∈ read, (!isBlank c) = true := fun c hc => by rw [hr c hc]; rfl
  rw [firstWord, List.takeWhile_append_of_pos hp]
  rcases h with rfl | ⟨c, s, rfl, hc⟩
  · simp
  · simp [hc]

theorem firstWord_eq_self {read : Text} (hr : ∀ c ∈ read, isBlank c = false) : firstWord read = read := by
  have := firstWord_append_of_not_blank hr (Or.inl rfl)
  rwa [List.append_nil] at this

/-- A text is its first word and nothing, or a blank and what follows it. -/
theorem exists_firstWord (text : Text) :
    ∃ rest, text = firstWord text ++ rest ∧ (rest = [] ∨ ∃ c s, rest = c :: s ∧ isBlank c = true) := by
  refine ⟨text.dropWhile (!isBlank ·), List.takeWhile_append_dropWhile.symm, ?_⟩
  cases h : text.dropWhile (!isBlank ·) with
  | nil => exact Or.inl rfl
  | cons c s =>
    have := List.head?_dropWhile_not (!isBlank ·) text
    rw [h] at this
    exact Or.inr ⟨c, s, rfl, by simpa using this⟩

theorem not_blank_of_mem_firstWord (h : c ∈ firstWord text) : isBlank c = false := by
  have := List.all_eq_true.mp (List.all_takeWhile (p := (!isBlank ·)) (l := text)) c h
  simpa using this

/-- Nothing behind a blank belongs to the first word. -/
theorem firstWord_append_blank (hc : isBlank c = true) (text rest : Text) :
    firstWord (text ++ c :: rest) = firstWord text := by
  obtain ⟨s, ht, hs⟩ := exists_firstWord text
  conv => lhs; rw [ht]
  rw [List.append_assoc]
  refine firstWord_append_of_not_blank (fun d hd => not_blank_of_mem_firstWord hd) ?_
  rcases hs with rfl | ⟨d, s, rfl, hd⟩
  · exact Or.inr ⟨c, rest, rfl, hc⟩
  · exact Or.inr ⟨d, s ++ c :: rest, rfl, hd⟩

/-- A text that is more than its first word keeps it whatever is put behind it. -/
theorem firstWord_append_or (text rest : Text) :
    firstWord text = text ∨ firstWord (text ++ rest) = firstWord text := by
  obtain ⟨s, ht, hs⟩ := exists_firstWord text
  rcases hs with rfl | ⟨d, s, rfl, hd⟩
  · rw [List.append_nil] at ht
    exact Or.inl ht.symm
  · right
    conv => lhs; rw [ht]
    rw [List.append_assoc]
    exact firstWord_append_of_not_blank (fun d hd => not_blank_of_mem_firstWord hd)
      (Or.inr ⟨d, s ++ rest, rfl, hd⟩)

/-- What stands behind the first word. -/
theorem dropWhile_append_of_not_blank {read : Text} (hr : ∀ c ∈ read, isBlank c = false)
    (h : rest = [] ∨ ∃ c s, rest = c :: s ∧ isBlank c = true) : (read ++ rest).dropWhile (!isBlank ·) = rest := by
  have hsplit := List.takeWhile_append_dropWhile (p := (!isBlank ·)) (l := read ++ rest)
  rw [show (read ++ rest).takeWhile (!isBlank ·) = read from firstWord_append_of_not_blank hr h] at hsplit
  exact List.append_cancel_left hsplit

end FirstWord

/-! ## Keywords -/

section Keywords

theorem isKeyword_iff : isKeyword word text = true ↔ text.map lowerLetter = word.toList := by
  rw [isKeyword, decide_eq_true_eq, afterFolded?_eq_some_iff]
  simp

/-- A text with a character that no letter of a keyword is folded from is not the keyword. -/
theorem isKeyword_eq_false_of_mem (hm : c ∈ text) (hno : lowerLetter c ∉ word.toList) :
    isKeyword word text = false := by
  rw [Bool.eq_false_iff, Ne, isKeyword_iff]
  intro h
  exact hno (h ▸ List.mem_map_of_mem hm)

theorem startsWithLower_iff :
    startsWithLower word text = true ↔ ∃ read rest, text = read ++ rest ∧ read.map lowerLetter = word.toList := by
  rw [startsWithLower, Option.isSome_iff_exists]
  simp only [afterFolded?_eq_some_iff]
  exact exists_comm

/-- A text that starts with a keyword still does so with more behind it. -/
theorem startsWithLower_append (h : startsWithLower word text = true) (rest : Text) :
    startsWithLower word (text ++ rest) = true := by
  obtain ⟨read, s, rfl, hr⟩ := startsWithLower_iff.mp h
  exact startsWithLower_iff.mpr ⟨read, s ++ rest, List.append_assoc .., hr⟩

theorem not_blank_of_map_lowerLetter {read : Text} (hw : word.toList.any isBlank = false)
    (h : read.map lowerLetter = word.toList) : ∀ c ∈ read, isBlank c = false := by
  intro c hc
  rw [← isBlank_lowerLetter]
  exact Bool.eq_false_iff.mpr (List.any_eq_false.mp hw _ (h ▸ List.mem_map_of_mem hc))

/-- A text starts with a keyword where its first word is the keyword. -/
theorem startsWithKeyword_iff (hw : word.toList.any isBlank = false) :
    startsWithKeyword word text = true ↔ (firstWord text).map lowerLetter = word.toList := by
  have hiff : startsWithKeyword word text = true ↔ ∃ rest, afterFolded? lowerLetter word.toList text = some rest ∧
      (rest = [] ∨ ∃ c s, rest = c :: s ∧ isBlank c = true) := by
    unfold startsWithKeyword
    split
    · next h => simp [h]
    · next c s h => simp [h]
    · next h => simp [h]
  rw [hiff]
  constructor
  · rintro ⟨rest, h, hrest⟩
    obtain ⟨read, rfl, hread⟩ := afterFolded?_eq_some_iff.mp h
    rw [firstWord_append_of_not_blank (not_blank_of_map_lowerLetter hw hread) hrest, hread]
  · intro h
    obtain ⟨rest, ht, hrest⟩ := exists_firstWord text
    exact ⟨rest, afterFolded?_eq_some_iff.mpr ⟨firstWord text, ht, h⟩, hrest⟩

/-- What stands behind a blank does not matter for a keyword. -/
theorem startsWithKeyword_append_blank (hw : word.toList.any isBlank = false) (hc : isBlank c = true)
    (text rest : Text) : startsWithKeyword word (text ++ c :: rest) = startsWithKeyword word text := by
  rw [Bool.eq_iff_iff, startsWithKeyword_iff hw, startsWithKeyword_iff hw, firstWord_append_blank hc]

/-- A text that starts with a keyword is the keyword, or still starts with it with more behind it. -/
theorem isKeyword_or_startsWithKeyword_append (hw : word.toList.any isBlank = false)
    (h : startsWithKeyword word text = true) (rest : Text) :
    isKeyword word text = true ∨ startsWithKeyword word (text ++ rest) = true := by
  rw [startsWithKeyword_iff hw] at h ⊢
  rw [isKeyword_iff]
  rcases firstWord_append_or text rest with ht | ht
  · exact Or.inl (ht ▸ h)
  · exact Or.inr (by rw [ht, h])

/-- A keyword is at the start of itself. -/
theorem startsWithKeyword_of_isKeyword (h : isKeyword word text = true) : startsWithKeyword word text = true := by
  rw [isKeyword, decide_eq_true_eq] at h
  rw [startsWithKeyword, h]

/-- A text that starts with a keyword starts with its letters. -/
theorem startsWithLower_of_startsWithKeyword (h : startsWithKeyword word text = true) :
    startsWithLower word text = true := by
  unfold startsWithKeyword at h
  unfold startsWithLower
  cases hr : afterFolded? lowerLetter word.toList text with
  | none =>
    rw [hr] at h
    cases h
  | some rest => rfl

/-- No letter but `k` is the lower case of a letter beyond ASCII. -/
theorem after?_asciiLower (h : startsWithLower word text = true) (hk : 'k' ∉ word.toList) :
    ∃ rest, after? word.toList (asciiLower text) = some rest := by
  obtain ⟨read, rest, rfl, hr⟩ := startsWithLower_iff.mp h
  have hread : asciiLower read = word.toList := by
    rw [← hr]
    refine List.map_congr_left fun c hc => ?_
    have hne : lowerLetter c ≠ 'k' := fun he => hk (hr ▸ he ▸ List.mem_map_of_mem hc)
    unfold lowerLetter at hne ⊢
    split at hne
    · exact absurd rfl hne
    · next hkelvin => rw [if_neg hkelvin]
  refine ⟨asciiLower rest, after?_eq_some_iff.mpr ?_⟩
  rw [← hread]
  exact List.map_append

/-- A text that starts with a keyword and a space starts with the keyword as a word. -/
theorem startsWithKeyword_of_startsWithLower {spaced : String} (hs : spaced.toList = word.toList ++ [' '])
    (hw : word.toList.any isBlank = false) (h : startsWithLower spaced text = true) :
    startsWithKeyword word text = true := by
  obtain ⟨read, rest, rfl, hr⟩ := startsWithLower_iff.mp h
  rw [hs] at hr
  obtain ⟨first, last, rfl, hfirst, hlast⟩ := List.map_eq_append_iff.mp hr
  obtain ⟨c, rest', rfl, hc, hnil⟩ := List.map_eq_cons_iff.mp hlast
  have hblank : isBlank c = true := by
    rw [← isBlank_lowerLetter, hc]
    exact isBlank_space
  rw [List.map_eq_nil_iff.mp hnil, List.append_assoc, List.singleton_append, startsWithKeyword_append_blank hw hblank,
    startsWithKeyword_iff hw, ← hfirst]
  rw [firstWord_eq_self (not_blank_of_map_lowerLetter hw hfirst)]

/-- What stands behind a blank does not matter for a word without blanks. -/
theorem startsWithLower_append_blank (hw : word.toList.any isBlank = false) (hc : isBlank c = true)
    (text rest : Text) : startsWithLower word (text ++ c :: rest) = startsWithLower word text := by
  rw [Bool.eq_iff_iff]
  refine ⟨fun h => ?_, fun h => startsWithLower_append h _⟩
  obtain ⟨read, s, he, hr⟩ := startsWithLower_iff.mp h
  refine startsWithLower_iff.mpr ⟨read, ?_⟩
  rcases List.append_eq_append_iff.mp he with ⟨m, h1, h2⟩ | ⟨m, h1, _⟩
  · cases m with
    | nil => exact ⟨[], by rw [h1]; simp, hr⟩
    | cons d m =>
      have hd := not_blank_of_map_lowerLetter hw hr d (by rw [h1]; simp)
      rw [(List.cons.inj h2).1, hd] at hc
      cases hc
  · exact ⟨m, h1, hr⟩

end Keywords

/-! ## Keywords that are read off a text -/

section Reading

theorem afterKeyword?_eq_some_iff :
    afterKeyword? word text = some rest ↔ ∃ read, text = read ++ rest ∧ read.map foldLetter = word.toList :=
  afterFolded?_eq_some_iff

end Reading

/-! ## Plain texts -/

/-- A text without its blanks and in one case. -/
def Text.plain (text : Text) : Text :=
  (dense text).map foldLetter

section Plain

@[simp] theorem plain_append (a b : Text) : plain (a ++ b) = plain a ++ plain b := by
  rw [plain, dense_append, List.map_append]
  rfl

theorem plain_cons (c : Char) (text : Text) :
    plain (c :: text) = (if isBlank c then [] else [foldLetter c]) ++ plain text := by
  rw [plain, plain, dense, List.filter_cons]
  cases isBlank c <;> rfl

theorem plain_gap {gap : Text} (h : IsGap gap) : plain gap = [] := by
  rw [plain, dense_gap h]
  rfl

theorem plain_cons_of_blank (h : isBlank c = true) (text : Text) : plain (c :: text) = plain text := by
  rw [plain_cons, if_pos h, List.nil_append]

@[simp] theorem plain_trim (text : Text) : plain (trim text) = plain text := by
  rw [plain, dense_trim]
  rfl

/-- A keyword is plainly the same in any case. -/
theorem plain_of_map_foldLetter {read word : Text} (hw : word.map foldLetter = word) (h : read.map foldLetter = word) :
    plain read = plain word := by
  have hcomm : ∀ t : Text, plain t = dense (t.map foldLetter) := by
    intro t
    induction t with
    | nil => rfl
    | cons c t ih =>
      rw [plain, dense, List.filter_cons, List.map_cons, dense, List.filter_cons, isBlank_foldLetter]
      cases isBlank c with
      | true => exact ih
      | false => exact congrArg (foldLetter c :: ·) ih
  rw [hcomm, hcomm, h, hw]

end Plain

end DiagramText
