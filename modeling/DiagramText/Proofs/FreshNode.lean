import DiagramText.FreshNode
import DiagramText.Proofs.Text.Trim

/-!
# Fresh numbers

The words of a text are told by the text: a word stands in it with no word character next to it (`mem_words_iff`). So
the words of lines are those of the text that they join to (`words_unlines`), and carriage returns do not matter
(`words_unlines_lines`). A number is used where ASCII digits of its value stand behind `temp` in a word (`IsUsed`). The
number of a new node is the least one from 1 on that is not used (`freshNode_eq`): among one number more than there are
used ones, one is free (`leastFree_spec`).
-/

namespace DiagramText

open Text

namespace Text

/-- A word stands in a text, with no word character next to it. -/
def HasWord (word text : Text) : Prop :=
  ∃ before behind, text = before ++ word ++ behind ∧
    (∀ c, before.getLast? = some c → isWordCharacter c = false) ∧
    ∀ c, behind.head? = some c → isWordCharacter c = false

end Text

/-- A number is used in a text: a word of the text is `temp` with ASCII digits of this value behind it. -/
def IsUsed (n : Nat) (text : Text) : Prop :=
  ∃ digits, digitsValue? digits = some n ∧ HasWord ("temp".toList ++ digits) text

/-- The name of a new node with a number. -/
def nodeName (n : Nat) : Text :=
  "temp".toList ++ Text.ofNat n

variable {c : Char} {word text : Text} {n : Nat}

/-! ## Words -/

section Words

variable {part x y : Text}

theorem wordsFrom_append (h : ∀ c ∈ x, isWordCharacter c = true) (part y : Text) :
    wordsFrom part (x ++ y) = wordsFrom (x.reverse ++ part) y := by
  induction x generalizing part with
  | nil => rfl
  | cons c x ih =>
    rw [List.cons_append, wordsFrom, if_pos (h c List.mem_cons_self), ih fun d hd => h d (List.mem_cons_of_mem c hd),
      List.reverse_cons, List.append_assoc, List.singleton_append]

/-- Words end at a character that is in no word. -/
theorem wordsFrom_append_cons (hc : isWordCharacter c = false) (part x y : Text) :
    wordsFrom part (x ++ c :: y) = wordsFrom part x ++ words y := by
  induction x generalizing part with
  | nil =>
    rw [List.nil_append, wordsFrom, wordsFrom, hc, if_neg Bool.false_ne_true]
    split <;> rfl
  | cons d x ih =>
    rw [List.cons_append, wordsFrom, wordsFrom, ih, ih]
    split
    · rfl
    · split <;> rfl

theorem words_append_cons (hc : isWordCharacter c = false) (x y : Text) : words (x ++ c :: y) = words x ++ words y :=
  wordsFrom_append_cons hc [] x y

/-- Word characters alone are one word. -/
theorem words_of_forall (hne : word ≠ []) (h : ∀ c ∈ word, isWordCharacter c = true) : words word = [word] := by
  have hwords := wordsFrom_append h [] []
  rw [List.append_nil, List.append_nil, wordsFrom, if_neg (mt List.reverse_eq_nil_iff.mp hne),
    List.reverse_reverse] at hwords
  exact hwords

theorem hasWord_append_cons (hc : isWordCharacter c = false) (x : Text) (h : HasWord word y) :
    HasWord word (x ++ c :: y) := by
  obtain ⟨before, behind, rfl, hbefore, hbehind⟩ := h
  refine ⟨x ++ c :: before, behind, by simp, fun d hd => ?_, hbehind⟩
  rw [List.getLast?_append, List.getLast?_cons] at hd
  cases hlast : before.getLast? with
  | none =>
    rw [hlast] at hd
    cases hd
    exact hc
  | some e =>
    rw [hlast] at hd
    exact hbefore d (hlast.trans hd)

theorem hasWord_of_mem_wordsFrom (h : word ∈ wordsFrom part text) : HasWord word (part.reverse ++ text) := by
  induction text generalizing part with
  | nil =>
    rw [wordsFrom] at h
    split at h
    · cases h
    · rw [List.mem_singleton.mp h]
      exact ⟨[], [], by simp, (fun _ hd => by cases hd), fun _ hd => by cases hd⟩
  | cons c text ih =>
    rw [wordsFrom] at h
    split at h
    · have hword := ih h
      rwa [List.reverse_cons, List.append_assoc] at hword
    · next hc =>
      rw [Bool.not_eq_true] at hc
      split at h
      · exact hasWord_append_cons hc part.reverse (ih h)
      · rcases List.mem_cons.mp h with rfl | h
        · refine ⟨[], c :: text, rfl, (fun _ hd => by cases hd), fun d hd => ?_⟩
          cases hd
          exact hc
        · exact hasWord_append_cons hc part.reverse (ih h)

/-- The words of a text are the texts of word characters that stand in it with no word character next to them. -/
theorem mem_words_iff (hne : word ≠ []) (h : ∀ c ∈ word, isWordCharacter c = true) :
    word ∈ words text ↔ HasWord word text := by
  constructor
  · exact @hasWord_of_mem_wordsFrom _ _ []
  · rintro ⟨before, behind, rfl, hbefore, hbehind⟩
    have hself : word ∈ words (word ++ behind) := by
      cases behind with
      | nil =>
        rw [List.append_nil, words_of_forall hne h]
        exact List.mem_cons_self
      | cons c behind =>
        rw [words_append_cons (hbehind c rfl), words_of_forall hne h]
        exact List.mem_cons_self
    rcases List.eq_nil_or_concat before with rfl | ⟨before, c, rfl⟩
    · exact hself
    · have hc := hbefore c (by simp)
      rw [List.concat_eq_append, List.append_assoc, List.append_assoc, List.singleton_append, words_append_cons hc]
      exact List.mem_append_right _ hself

/-! ### Word characters -/

theorem isWordCharacter_iff : isWordCharacter c = true ↔
    ∃ r ∈ decimalDigitRanges ++ wordRanges, r.1 ≤ c.toNat ∧ c.toNat ≤ r.2 := by
  rw [isWordCharacter, isDecimalDigit, inRanges, inRanges, ← List.any_append, List.any_eq_true]
  refine exists_congr fun r => and_congr_right fun _ => ?_
  rw [Bool.and_eq_true, decide_eq_true_eq, decide_eq_true_eq]

/-- Word characters are no blanks, and start with the digits. -/
theorem holdsNoBlank_wordRanges : ∀ r ∈ decimalDigitRanges ++ wordRanges,
    0x30 ≤ r.1 ∧ holdsNoBlank r.1 r.2 = true := by
  decide +kernel

theorem isBlank_of_isWordCharacter (h : isWordCharacter c = true) : isBlank c = false := by
  obtain ⟨r, hr, hfirst, hlast⟩ := isWordCharacter_iff.mp h
  exact isBlank_of_holdsNoBlank (holdsNoBlank_wordRanges r hr).2 hfirst hlast

theorem isWordCharacter_of_lt (h : c.toNat < 0x30) : isWordCharacter c = false := by
  rw [Bool.eq_false_iff, Ne, isWordCharacter_iff]
  rintro ⟨r, hr, hfirst, -⟩
  have hle := (holdsNoBlank_wordRanges r hr).1
  omega

/-! ### Lines -/

theorem isWordCharacter_of_isBlank (h : isBlank c = true) : isWordCharacter c = false := by
  rw [Bool.eq_false_iff]
  intro hc
  rw [isBlank_of_isWordCharacter hc] at h
  cases h

theorem isWordCharacter_newline : isWordCharacter '\n' = false := isWordCharacter_of_isBlank (by decide)

theorem words_unlines (lines : List Text) : words (unlines lines) = lines.flatMap words := by
  induction lines with
  | nil => rfl
  | cons line lines ih =>
    cases lines with
    | nil => simp [unlines]
    | cons line' lines =>
      have hcons : unlines (line :: line' :: lines) = line ++ '\n' :: unlines (line' :: lines) := by
        simp [unlines, List.intercalate_cons_cons]
      rw [hcons, words_append_cons isWordCharacter_newline, ih]
      rfl

theorem words_withoutReturn (piece : Text) : words (withoutReturn piece) = words piece := by
  unfold withoutReturn
  split
  · next h =>
    obtain ⟨before, rfl⟩ := List.getLast?_eq_some_iff.mp h
    rw [List.dropLast_concat, words_append_cons (isWordCharacter_of_isBlank (by decide))]
    exact (List.append_nil _).symm
  · rfl

/-- Read as lines, a text keeps its words. -/
theorem words_unlines_lines (text : Text) : words (unlines (lines text)) = words text := by
  rw [words_unlines, lines, List.flatMap_map, funext words_withoutReturn, ← words_unlines]
  exact congrArg words (intercalate_pieces '\n' text)

end Words

/-! ## Numbers -/

section Numbers

variable {digits : Text}

theorem digitsValue?_eq_some_iff : digitsValue? digits = some n ↔
    digits ≠ [] ∧ (∀ c ∈ digits, c.isDigit = true) ∧ Nat.ofDigitChars 10 digits 0 = n := by
  have hvalue : digits.foldl (fun n c => n * 10 + (c.toNat - '0'.toNat)) 0 = Nat.ofDigitChars 10 digits 0 := by
    simp only [Nat.ofDigitChars, Nat.mul_comm 10]
  rw [digitsValue?, hvalue]
  split
  · next h =>
    rw [List.all_eq_true] at h
    rw [Option.some.injEq]
    exact ⟨fun he => ⟨h.1, h.2, he⟩, fun he => he.2.2⟩
  · next h =>
    rw [List.all_eq_true] at h
    exact ⟨(fun he => by cases he), fun he => absurd ⟨he.1, he.2.1⟩ h⟩

/-- What is written in decimal is read again. -/
theorem digitsValue?_ofNat (n : Nat) : digitsValue? (Text.ofNat n) = some n :=
  digitsValue?_eq_some_iff.mpr ⟨Nat.toDigits_ne_nil, fun _ hc => Nat.isDigit_of_mem_toDigits (by decide) (by decide) hc,
    Nat.ofDigitChars_toDigits (by decide) (by decide)⟩

theorem isWordCharacter_of_isDigit (h : c.isDigit = true) : isWordCharacter c = true := by
  rw [Char.isDigit, Bool.and_eq_true, decide_eq_true_eq, decide_eq_true_eq] at h
  exact isWordCharacter_iff.mpr ⟨(0x30, 0x39), List.mem_append_left _ List.mem_cons_self, h⟩

/-- A generated name is a word. -/
theorem isWordCharacter_of_mem_name (h : digitsValue? digits = some n) :
    ∀ c ∈ "temp".toList ++ digits, isWordCharacter c = true := by
  have hletters : ("temp".toList.all fun c => 0x61 ≤ c.toNat && c.toNat ≤ 0x7A) = true := by decide
  have hrange : (0x61, 0x7A) ∈ wordRanges := by decide +kernel
  intro c hc
  rcases List.mem_append.mp hc with hc | hc
  · have hletter := List.all_eq_true.mp hletters c hc
    rw [Bool.and_eq_true, decide_eq_true_eq, decide_eq_true_eq] at hletter
    exact isWordCharacter_iff.mpr ⟨(0x61, 0x7A), List.mem_append_right _ hrange, hletter⟩
  · exact isWordCharacter_of_isDigit ((digitsValue?_eq_some_iff.mp h).2.1 c hc)

/-- The numbers that are found are those that are used. -/
theorem mem_usedNumbers_iff : n ∈ usedNumbers text ↔ IsUsed n text := by
  have hword : ∀ digits, digitsValue? digits = some n →
      ("temp".toList ++ digits ∈ words text ↔ HasWord ("temp".toList ++ digits) text) := fun digits hd =>
    mem_words_iff (List.cons_ne_nil 't' _) (isWordCharacter_of_mem_name hd)
  rw [usedNumbers, List.mem_filterMap]
  constructor
  · rintro ⟨word, hmem, hnumber⟩
    obtain ⟨digits, hafter, hd⟩ := Option.bind_eq_some_iff.mp hnumber
    rw [after?_eq_some_iff] at hafter
    rw [hafter] at hmem
    exact ⟨digits, hd, (hword digits hd).mp hmem⟩
  · rintro ⟨digits, hd, hmem⟩
    exact ⟨_, (hword digits hd).mpr hmem, Option.bind_eq_some_iff.mpr ⟨digits, after?_eq_some_iff.mpr rfl, hd⟩⟩

theorem isUsed_of_hasWord (h : HasWord (nodeName n) text) : IsUsed n text :=
  ⟨Text.ofNat n, digitsValue?_ofNat n, h⟩

end Numbers

/-! ## The least free number -/

section LeastFree

variable {used : List Nat}

/-- The search passes over used numbers only, and ends at a used one only where it runs out of fuel. -/
theorem leastFree_eq (used : List Nat) (n fuel : Nat) : ∃ k, leastFree used n fuel = n + k ∧
    (∀ m, n ≤ m → m < n + k → m ∈ used) ∧ (n + k ∈ used → k = fuel) := by
  induction fuel generalizing n with
  | zero => exact ⟨0, rfl, fun m h1 h2 => by omega, fun _ => rfl⟩
  | succ fuel ih =>
    rw [leastFree]
    split
    · next hn =>
      obtain ⟨k, hk, hbelow, hfuel⟩ := ih (n + 1)
      rw [Nat.add_assoc, Nat.add_comm 1 k] at hk hbelow hfuel
      refine ⟨k + 1, hk, fun m h1 h2 => ?_, fun hused => congrArg (· + 1) (hfuel hused)⟩
      rcases Nat.eq_or_lt_of_le h1 with rfl | h1
      · exact hn
      · exact hbelow m h1 h2
    · next hn => exact ⟨0, rfl, fun m h1 h2 => by omega, fun hused => absurd hused hn⟩

/-- Among one number more than there are used ones, the search finds the least that is free. -/
theorem leastFree_spec (used : List Nat) (n : Nat) : n ≤ leastFree used n used.length ∧
    leastFree used n used.length ∉ used ∧ ∀ m, n ≤ m → m < leastFree used n used.length → m ∈ used := by
  obtain ⟨k, hk, hbelow, hfuel⟩ := leastFree_eq used n used.length
  rw [hk]
  refine ⟨Nat.le_add_right n k, fun hused => ?_, hbelow⟩
  have hsubset : List.range' n (k + 1) ⊆ used := by
    intro m hm
    obtain ⟨h1, h2⟩ := List.mem_range'_1.mp hm
    rcases Nat.lt_or_ge m (n + k) with hlt | hge
    · exact hbelow m h1 hlt
    · rwa [show m = n + k by omega]
  have hlength := (List.nodup_range' 1).length_le_of_subset hsubset
  rw [List.length_range', hfuel hused] at hlength
  omega

/-- A new node is named by the least number from 1 on that is not used. -/
theorem freshNode_eq (text : Text) : ∃ n, freshNode text = nodeName n ∧ 1 ≤ n ∧ ¬IsUsed n text ∧
    ∀ m, 1 ≤ m → m < n → IsUsed m text := by
  obtain ⟨hfirst, hfree, hbelow⟩ := leastFree_spec (usedNumbers text) 1
  exact ⟨_, rfl, hfirst, fun hused => hfree (mem_usedNumbers_iff.mpr hused),
    fun m h1 h2 => mem_usedNumbers_iff.mp (hbelow m h1 h2)⟩

end LeastFree

end DiagramText
