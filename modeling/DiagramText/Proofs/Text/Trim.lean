import DiagramText.Text.Blank

/-!
# Trimmed texts

- `IsGap`: a text of blanks; every text is a gap and its trimmed start (`exists_gap_trimStart`);
- `IsTail`: the end of a line, without a newline and without a blank behind it. Each suffix of a tail is one
  (`IsTail.of_append`), to trim one is to drop the gap in front of it (`IsTail.trim_eq`), and what is read from one is
  never empty (`IsTail.remainder?_eq`);
- `IsTight`: a tail that starts with a character, as a trimmed line does (`isTight_trim`);
- `Text.dense` leaves out the blanks of a text, and `Text.isFilled` says whether anything is left;
- `holdsNoBlank` says of a range of code points that no blank lies in it (`isBlank_of_holdsNoBlank`).
-/

namespace DiagramText

/-- A text of blanks. -/
def IsGap (text : Text) : Prop :=
  ∀ c ∈ text, isBlank c = true

/-- A gap that is not empty. -/
def IsSpace (text : Text) : Prop :=
  IsGap text ∧ text ≠ []

/-- The end of a line: no newline, and no blank at its end. -/
structure IsTail (text : Text) : Prop where
  newline : '\n' ∉ text
  last : ∀ c, text.getLast? = some c → isBlank c = false

/-- A line without blanks around it, and not empty. -/
structure IsTight (text : Text) : Prop extends IsTail text where
  first : ∃ c rest, text = c :: rest ∧ isBlank c = false

namespace Text

/-- Whether a text holds more than blanks. -/
def isFilled (text : Text) : Bool :=
  text.any (!isBlank ·)

/-- A text without its blanks. -/
def dense (text : Text) : Text :=
  text.filter (!isBlank ·)

end Text

open Text

variable {text rest gap : Text} {c : Char}

/-! ## Ranges of blanks -/

section Ranges

/-- The ranges of the code points of blanks. -/
def blankRanges : List (Nat × Nat) := [
  (0x09, 0x0D), (0x20, 0x20), (0x85, 0x85), (0xA0, 0xA0), (0x1680, 0x1680), (0x2000, 0x200A), (0x2028, 0x2029),
  (0x202F, 0x202F), (0x205F, 0x205F), (0x3000, 0x3000)]

theorem isBlank_iff_blankRanges : isBlank c = true ↔ ∃ b ∈ blankRanges, b.1 ≤ c.toNat ∧ c.toNat ≤ b.2 := by
  simp only [isBlank, blankRanges, Bool.or_eq_true, Bool.and_eq_true, decide_eq_true_eq, beq_iff_eq, List.mem_cons,
    List.not_mem_nil, or_false, exists_eq_or_imp, exists_eq_left]
  omega

/-- Whether a range of code points holds no blank: it lies on one side of each range of blanks. -/
def holdsNoBlank (first last : Nat) : Bool :=
  blankRanges.all fun b => last < b.1 || b.2 < first

theorem isBlank_of_holdsNoBlank {first last : Nat} (h : holdsNoBlank first last = true) (hfirst : first ≤ c.toNat)
    (hlast : c.toNat ≤ last) : isBlank c = false := by
  rw [Bool.eq_false_iff, Ne, isBlank_iff_blankRanges]
  rintro ⟨b, hb, h1, h2⟩
  have hside := List.all_eq_true.mp h b hb
  simp only [Bool.or_eq_true, decide_eq_true_eq] at hside
  omega

end Ranges

/-! ## Two ways to cut a text -/

section Cut

variable {a b x s : Text}

/-- A text that goes on with a character that is not in `a` has `a` in front of that character. -/
theorem exists_append_of_not_mem (h : a ++ b = x ++ s) (hs : ∃ c t, s = c :: t ∧ c ∉ a) :
    ∃ m, x = a ++ m ∧ b = m ++ s := by
  obtain ⟨c, t, rfl, hc⟩ := hs
  rcases List.append_eq_append_iff.mp h with ⟨m, hx, hb⟩ | ⟨m, ha, hs⟩
  · exact ⟨m, hx, hb⟩
  · cases m with
    | nil => exact ⟨[], by simpa using ha.symm, by simpa using hs.symm⟩
    | cons d m =>
      cases hs
      exact absurd (by rw [ha]; simp) hc

/-- A text that goes on with a character that is not in `b` has that character in front of `b`. -/
theorem exists_append_of_not_mem_right (h : a ++ b = x ++ s) (hs : ∃ c t, s = c :: t ∧ c ∉ b) :
    ∃ m, a = x ++ m ∧ s = m ++ b := by
  obtain ⟨c, t, rfl, hc⟩ := hs
  rcases List.append_eq_append_iff.mp h with ⟨m, _, hb⟩ | ⟨m, ha, hs⟩
  · exact absurd (by rw [hb]; simp) hc
  · exact ⟨m, ha, hs⟩

/-- Two texts up to the same character, which is neither in `x` nor in `b`, are the same, or the character is in `a`. -/
theorem append_eq_or_exists_append {c : Char} {t : Text} (h : a ++ b ++ c :: s = x ++ c :: t) (hb : c ∉ b)
    (hx : c ∉ x) : (a ++ b = x ∧ s = t) ∨ ∃ z, a = x ++ c :: z := by
  obtain ⟨m, hm, ht⟩ := exists_append_of_not_mem h.symm ⟨c, s, rfl, hx⟩
  cases m with
  | nil => exact Or.inl ⟨by rw [hm, List.append_nil], (List.cons.inj ht).2.symm⟩
  | cons d m =>
    rw [← (List.cons.inj ht).1] at hm
    obtain ⟨z, hz, hm⟩ := exists_append_of_not_mem_right hm ⟨c, m, rfl, hb⟩
    cases z with
    | nil =>
      rw [List.nil_append] at hm
      exact absurd (hm ▸ List.mem_cons_self) hb
    | cons d z =>
      rw [← (List.cons.inj hm).1] at hz
      exact Or.inr ⟨z, hz⟩

end Cut

/-! ## Gaps -/

section Gaps

theorem isBlank_space : isBlank ' ' = true := rfl

theorem isGap_nil : IsGap [] := by
  intro c hc
  cases hc

theorem isGap_space : IsGap [' '] := by
  intro c hc
  rw [List.mem_singleton.mp hc]
  exact isBlank_space

theorem isGap_append {a b : Text} : IsGap (a ++ b) ↔ IsGap a ∧ IsGap b := by
  simp only [IsGap, List.mem_append]
  constructor
  · intro h
    exact ⟨fun c hc => h c (Or.inl hc), fun c hc => h c (Or.inr hc)⟩
  · rintro ⟨ha, hb⟩ c (hc | hc)
    · exact ha c hc
    · exact hb c hc

theorem isSpace_cons (hc : isBlank c = true) (hg : IsGap gap) : IsSpace (c :: gap) := by
  refine ⟨fun d hd => ?_, List.cons_ne_nil c gap⟩
  rcases List.mem_cons.mp hd with rfl | hd
  · exact hc
  · exact hg d hd

theorem isGap_indentation (text : Text) : IsGap (indentation text) := by
  intro c hc
  have := List.all_takeWhile (p := isBlank) (l := text)
  exact List.all_eq_true.mp this c hc

/-- The indentation ends at the first character that is no blank. -/
theorem indentation_gap_append (h : IsGap gap) (hc : isBlank c = false) (rest : Text) :
    indentation (gap ++ c :: rest) = gap := by
  rw [indentation, List.takeWhile_append_of_pos h, List.takeWhile_cons, hc]
  exact List.append_nil gap

/-- Every text is a gap and its trimmed start. -/
theorem exists_gap_trimStart (text : Text) : ∃ gap, IsGap gap ∧ text = gap ++ trimStart text :=
  ⟨indentation text, isGap_indentation text, (indentation_append_trimStart text).symm⟩

/-- A gap at the start is trimmed. -/
theorem trimStart_gap_append (h : IsGap gap) (text : Text) : trimStart (gap ++ text) = trimStart text :=
  List.dropWhile_append_of_pos h

theorem trimStart_cons_of_blank (h : isBlank c = true) (text : Text) : trimStart (c :: text) = trimStart text := by
  rw [trimStart, List.dropWhile_cons, if_pos h]
  rfl

theorem trimStart_cons_of_not_blank (h : isBlank c = false) (text : Text) : trimStart (c :: text) = c :: text := by
  rw [trimStart, List.dropWhile_cons, h]
  rfl

/-- A gap ends where a text stands that starts with no blank. -/
theorem trimStart_indentation_of_first (hg : IsGap gap) (h : ∃ c t, text = c :: t ∧ isBlank c = false) (rest : Text) :
    trimStart (gap ++ (text ++ rest)) = text ++ rest ∧ indentation (gap ++ (text ++ rest)) = gap := by
  obtain ⟨c, t, rfl, hc⟩ := h
  refine ⟨?_, indentation_gap_append hg hc (t ++ rest)⟩
  rw [trimStart_gap_append hg, List.cons_append, trimStart_cons_of_not_blank hc]

/-- A trimmed start is empty or starts with a character that is no blank. -/
theorem trimStart_eq_nil_or_cons (text : Text) :
    trimStart text = [] ∨ ∃ c rest, trimStart text = c :: rest ∧ isBlank c = false := by
  cases h : trimStart text with
  | nil => exact Or.inl rfl
  | cons c rest =>
    refine Or.inr ⟨c, rest, rfl, ?_⟩
    have := List.head?_dropWhile_not isBlank text
    rw [show text.dropWhile isBlank = c :: rest from h] at this
    simpa using this

theorem trimStart_eq_nil_iff : trimStart text = [] ↔ IsGap text := by
  constructor
  · intro h
    obtain ⟨gap, hg, ht⟩ := exists_gap_trimStart text
    rw [h, List.append_nil] at ht
    exact ht ▸ hg
  · intro h
    have := trimStart_gap_append h []
    rwa [List.append_nil] at this

theorem trimStart_trimStart (text : Text) : trimStart (trimStart text) = trimStart text := by
  rcases trimStart_eq_nil_or_cons text with h | ⟨c, rest, h, hc⟩
  · rw [h]
    rfl
  · rw [h, trimStart_cons_of_not_blank hc]

/-- What stands in a text behind its blanks holds no character that is not in the text. -/
theorem not_mem_of_trimStart_eq {a b : Text} (h : c ∉ text) (ht : trimStart text = a ++ b) : c ∉ b := by
  obtain ⟨gap, _, hgap⟩ := exists_gap_trimStart text
  rw [hgap, ht, List.mem_append, List.mem_append, not_or, not_or] at h
  exact h.2.2

/-- Trimming a text that holds more than blanks leaves what is behind it. -/
theorem trimStart_append_of_ne_nil (h : trimStart text ≠ []) (rest : Text) :
    trimStart (text ++ rest) = trimStart text ++ rest := by
  obtain ⟨gap, hg, ht⟩ := exists_gap_trimStart text
  rcases trimStart_eq_nil_or_cons text with h' | ⟨c, s, h', hc⟩
  · exact absurd h' h
  · have : trimStart (text ++ rest) = trimStart (gap ++ (trimStart text ++ rest)) := by
      rw [← List.append_assoc, ← ht]
    rw [this, trimStart_gap_append hg, h', List.cons_append, trimStart_cons_of_not_blank hc]

end Gaps

/-! ## Dense texts -/

section Dense

@[simp] theorem dense_nil : dense [] = [] := rfl

@[simp] theorem dense_append (a b : Text) : dense (a ++ b) = dense a ++ dense b :=
  List.filter_append a b

theorem dense_gap (h : IsGap gap) : dense gap = [] :=
  List.filter_eq_nil_iff.mpr fun c hc => by simp [h c hc]

@[simp] theorem dense_trimStart (text : Text) : dense (trimStart text) = dense text := by
  obtain ⟨gap, hg, ht⟩ := exists_gap_trimStart text
  conv => rhs; rw [ht, dense_append, dense_gap hg, List.nil_append]

@[simp] theorem dense_trimEnd (text : Text) : dense (trimEnd text) = dense text := by
  have h := dense_trimStart text.reverse
  simp only [dense, trimStart, List.filter_reverse] at h
  simp only [dense, trimEnd, List.filter_reverse, h, List.reverse_reverse]

@[simp] theorem dense_trim (text : Text) : dense (trim text) = dense text := by
  rw [trim, dense_trimEnd, dense_trimStart]

/-- A trimmed text is empty exactly where the text holds only blanks. -/
theorem trim_eq_nil_iff : trim text = [] ↔ IsGap text := by
  rw [← trimStart_eq_nil_iff, trim, trimEnd, List.reverse_eq_nil_iff]
  show trimStart (trimStart text).reverse = [] ↔ _
  rw [trimStart_eq_nil_iff]
  constructor
  · intro h
    rcases trimStart_eq_nil_or_cons text with h' | ⟨c, rest, h', hc⟩
    · exact h'
    · have := h c (by rw [h']; simp)
      rw [hc] at this
      cases this
  · intro h
    rw [h]
    exact isGap_nil

theorem isFilled_eq_false_iff : isFilled text = false ↔ IsGap text := by
  simp [isFilled, IsGap]

theorem isFilled_iff : isFilled text = true ↔ trim text ≠ [] := by
  rw [Ne, trim_eq_nil_iff, ← isFilled_eq_false_iff, Bool.not_eq_false]

end Dense

/-! ## Tails -/

section Tails

theorem IsTail.of_append {a b : Text} (h : IsTail (a ++ b)) : IsTail b := by
  refine ⟨fun hb => h.newline (List.mem_append_right a hb), fun c hc => h.last c ?_⟩
  rw [List.getLast?_append, hc]
  rfl

theorem IsTail.of_cons (h : IsTail (c :: text)) : IsTail text :=
  IsTail.of_append (a := [c]) h

/-- What is put in front of a tail that is not empty may end in anything but a newline. -/
theorem IsTail.append {a b : Text} (hb : IsTail b) (hne : b ≠ []) (ha : '\n' ∉ a) : IsTail (a ++ b) := by
  refine ⟨?_, fun c hc => hb.last c ?_⟩
  · rw [List.mem_append]
    exact not_or.mpr ⟨ha, hb.newline⟩
  · rw [List.getLast?_append, List.getLast?_eq_some_getLast hne, Option.some_or] at hc
    rw [List.getLast?_eq_some_getLast hne, hc]

theorem IsTail.trimStart (h : IsTail text) : IsTail (trimStart text) := by
  obtain ⟨gap, _, ht⟩ := exists_gap_trimStart text
  rw [ht] at h
  exact h.of_append

/-- What a tail ends in behind its blanks is a tail. -/
theorem IsTail.of_trimStart_eq {a b : Text} (h : IsTail text) (ht : Text.trimStart text = a ++ b) : IsTail b := by
  have htail := h.trimStart
  rw [ht] at htail
  exact htail.of_append

/-- A tail of blanks is empty. -/
theorem IsTail.eq_nil_of_gap (h : IsTail text) (hg : IsGap text) : text = [] := by
  by_cases hne : text = []
  · exact hne
  · have hl := h.last _ (List.getLast?_eq_some_getLast hne)
    rw [hg _ (List.getLast_mem hne)] at hl
    cases hl

theorem IsTail.trimStart_ne_nil (h : IsTail text) (hne : text ≠ []) : Text.trimStart text ≠ [] :=
  fun h' => hne (h.eq_nil_of_gap (trimStart_eq_nil_iff.mp h'))

/-- A text without a blank at its end has nothing to trim there. -/
theorem trimEnd_eq_self (h : ∀ c, text.getLast? = some c → isBlank c = false) : trimEnd text = text := by
  cases hr : text.reverse with
  | nil =>
    rw [List.reverse_eq_nil_iff.mp hr]
    rfl
  | cons c rest =>
    have hc : isBlank c = false := h c (by rw [List.getLast?_eq_head?_reverse, hr]; rfl)
    have ht : text = (c :: rest).reverse := by rw [← hr, List.reverse_reverse]
    rw [trimEnd, hr, List.dropWhile_cons, hc, ht]
    rfl

theorem IsTail.trimEnd_eq (h : IsTail text) : trimEnd text = text :=
  trimEnd_eq_self h.last

theorem IsTail.trim_eq (h : IsTail text) : trim text = Text.trimStart text :=
  h.trimStart.trimEnd_eq

/-- A trimmed end has no blank behind it. -/
theorem last_trimEnd (text : Text) : ∀ c, (trimEnd text).getLast? = some c → isBlank c = false := by
  intro c hc
  rw [trimEnd, List.getLast?_reverse] at hc
  have := List.head?_dropWhile_not isBlank text.reverse
  rw [hc] at this
  simpa using this

theorem trimEnd_append_gap (h : IsGap gap) (text : Text) : trimEnd (text ++ gap) = trimEnd text := by
  have : (text ++ gap).reverse.dropWhile isBlank = text.reverse.dropWhile isBlank := by
    rw [List.reverse_append]
    exact List.dropWhile_append_of_pos fun c hc => h c (List.mem_reverse.mp hc)
  rw [trimEnd, trimEnd, this]

/-- Every text is its trimmed end and a gap. -/
theorem exists_gap_trimEnd (text : Text) : ∃ gap, IsGap gap ∧ text = trimEnd text ++ gap := by
  obtain ⟨gap, hg, ht⟩ := exists_gap_trimStart text.reverse
  refine ⟨gap.reverse, fun c hc => hg c (List.mem_reverse.mp hc), ?_⟩
  have := congrArg List.reverse ht
  rwa [List.reverse_reverse, List.reverse_append] at this

/-- Every text is a gap, its trimmed form, and a gap. -/
theorem exists_gaps_trim (text : Text) : ∃ a b, IsGap a ∧ IsGap b ∧ text = a ++ trim text ++ b := by
  obtain ⟨a, ha, h1⟩ := exists_gap_trimStart text
  obtain ⟨b, hb, h2⟩ := exists_gap_trimEnd (Text.trimStart text)
  refine ⟨a, b, ha, hb, ?_⟩
  conv => lhs; rw [h1, h2, ← List.append_assoc]
  rfl

/-- Only the end of a text is trimmed that holds more than blanks. -/
theorem trimEnd_append_of_isFilled {text rest : Text} (h : isFilled rest = true) :
    trimEnd (text ++ rest) = text ++ trimEnd rest := by
  have hne : trimStart rest.reverse ≠ [] := by
    rw [Ne, trimStart_eq_nil_iff, ← isFilled_eq_false_iff, isFilled, List.any_reverse]
    simpa [isFilled] using h
  calc trimEnd (text ++ rest) = (trimStart (rest.reverse ++ text.reverse)).reverse := by
        rw [← List.reverse_append]; rfl
    _ = (trimStart rest.reverse ++ text.reverse).reverse := by rw [trimStart_append_of_ne_nil hne]
    _ = text ++ trimEnd rest := by rw [List.reverse_append, List.reverse_reverse]; rfl

theorem mem_of_mem_trim (h : c ∈ trim text) : c ∈ text := by
  obtain ⟨a, b, _, _, ht⟩ := exists_gaps_trim text
  rw [ht]
  exact List.mem_append_left b (List.mem_append_right a h)

theorem IsTail.of_trimEnd (h : '\n' ∉ text) : IsTail (trimEnd text) := by
  obtain ⟨gap, _, ht⟩ := exists_gap_trimEnd text
  refine ⟨fun hn => h ?_, last_trimEnd text⟩
  rw [ht]
  exact List.mem_append_left gap hn

end Tails

/-! ## Tight texts -/

section Tight

theorem IsTight.ne_nil (h : IsTight text) : text ≠ [] := by
  obtain ⟨c, rest, rfl, _⟩ := h.first
  exact List.cons_ne_nil c rest

theorem IsTight.trimStart_append (h : IsTight text) (rest : Text) :
    Text.trimStart (text ++ rest) = text ++ rest := by
  obtain ⟨c, s, rfl, hc⟩ := h.first
  exact trimStart_cons_of_not_blank hc _

theorem IsTight.trimStart_eq (h : IsTight text) : Text.trimStart text = text := by
  have := h.trimStart_append []
  rwa [List.append_nil] at this

theorem IsTight.trim_eq (h : IsTight text) : trim text = text := by
  rw [h.toIsTail.trim_eq, h.trimStart_eq]

/-- A gap on either side of a tight text is trimmed. -/
theorem IsTight.trim_gap_append (h : IsTight text) (hg : IsGap gap) : trim (gap ++ text) = text := by
  rw [trim, trimStart_gap_append hg, h.trimStart_eq, h.toIsTail.trimEnd_eq]

/-- The trimmed start of a tail is tight, unless it is empty. -/
theorem IsTail.isTight_trimStart (h : IsTail text) (hne : text ≠ []) : IsTight (Text.trimStart text) :=
  ⟨h.trimStart, (trimStart_eq_nil_or_cons text).resolve_left (h.trimStart_ne_nil hne)⟩

/-- The first character of a text is not trimmed if it is no blank. -/
theorem exists_trim_cons (hc : isBlank c = false) (text : Text) :
    ∃ kept gap, trim (c :: text) = c :: kept ∧ text = kept ++ gap := by
  have hstart : Text.trimStart (c :: text) = c :: text := trimStart_cons_of_not_blank hc text
  obtain ⟨gap, _, htrim⟩ := exists_gap_trimEnd (c :: text)
  rw [trim, hstart]
  cases hp : trimEnd (c :: text) with
  | nil =>
    have hnil : trim (c :: text) = [] := by rw [trim, hstart, hp]
    rw [trim_eq_nil_iff.mp hnil c List.mem_cons_self] at hc
    cases hc
  | cons d kept =>
    rw [hp] at htrim
    exact ⟨kept, gap, by rw [(List.cons.inj htrim).1], (List.cons.inj htrim).2⟩

/-- A trimmed text is empty or starts with a character that is no blank. -/
theorem trim_eq_nil_or_cons (text : Text) : trim text = [] ∨ ∃ c rest, trim text = c :: rest ∧ isBlank c = false := by
  rcases trimStart_eq_nil_or_cons text with h | ⟨c, s, h, hc⟩
  · exact Or.inl (trim_eq_nil_iff.mpr (trimStart_eq_nil_iff.mp h))
  · obtain ⟨kept, _, htrim, _⟩ := exists_trim_cons hc s
    refine Or.inr ⟨c, kept, ?_, hc⟩
    rw [← htrim, trim, trim, h, trimStart_cons_of_not_blank hc]

theorem trim_trim (text : Text) : trim (trim text) = trim text := by
  rcases trim_eq_nil_or_cons text with h | ⟨c, rest, h, hc⟩
  · rw [h]
    rfl
  · have hs : Text.trimStart (trim text) = trim text := by rw [h, trimStart_cons_of_not_blank hc]
    rw [trim, hs]
    exact trimEnd_eq_self (last_trimEnd _)

/-- A line without the blanks around it is tight, unless it is empty. -/
theorem isTight_trim (h : '\n' ∉ text) (hne : trim text ≠ []) : IsTight (trim text) :=
  ⟨⟨fun hn => h (mem_of_mem_trim hn), last_trimEnd _⟩, (trim_eq_nil_or_cons text).resolve_left hne⟩

/-- What is left of a tail is never empty. -/
theorem IsTail.remainder?_eq (h : IsTail text) :
    remainder? text = if text = [] then none else some (Text.trimStart text) := by
  by_cases hne : text = []
  · subst hne
    rfl
  · obtain ⟨c, rest, hc, _⟩ := (h.isTight_trimStart hne).first
    have hn : '\n' ∉ Text.trimStart text := h.trimStart.newline
    rw [remainder?, hc] at *
    simp [hne, hn]

/-- A remainder stands behind space. -/
theorem spacedRemainder?_eq_append (h : IsTail text) (hs : spacedRemainder? text = some rest) :
    IsTight rest ∧ ∃ s, IsSpace s ∧ text = s ++ rest := by
  cases text with
  | nil => cases hs
  | cons c text =>
    rw [spacedRemainder?] at hs
    split at hs
    · next hc =>
      rw [h.of_cons.remainder?_eq] at hs
      split at hs
      · cases hs
      · next hne =>
        cases hs
        obtain ⟨gap, hg, ht⟩ := exists_gap_trimStart text
        refine ⟨h.of_cons.isTight_trimStart hne, c :: gap, isSpace_cons hc hg, ?_⟩
        rw [List.cons_append, ← ht]
    · cases hs

end Tight

/-! ## Behind a colon -/

/-- What stands behind a colon: a space and a body, or nothing. -/
def Text.spacedBody (body : Text) : Text :=
  if body = [] then [] else ' ' :: body

section Colon

variable {body : Text}

/-- No space is left behind a colon without a body. -/
theorem trimEnd_colon (h : ∀ c, body.getLast? = some c → isBlank c = false) (text : Text) :
    trimEnd (text ++ ':' :: ' ' :: body) = text ++ ':' :: spacedBody body := by
  by_cases hb : body = []
  · have hsplit : text ++ ':' :: ' ' :: body = (text ++ [':']) ++ [' '] := by simp [hb]
    rw [hsplit, trimEnd_append_gap isGap_space, spacedBody, if_pos hb]
    refine trimEnd_eq_self fun c hc => ?_
    rw [List.getLast?_append] at hc
    cases hc
    decide
  · rw [spacedBody, if_neg hb]
    refine trimEnd_eq_self fun c hc => h c ?_
    have hsplit : text ++ ':' :: ' ' :: body = (text ++ [':', ' ']) ++ body := by simp
    rw [hsplit, List.getLast?_append, List.getLast?_eq_some_getLast hb, Option.some_or] at hc
    rw [List.getLast?_eq_some_getLast hb, hc]

theorem trim_spacedBody (h : trim body = body) : trim (spacedBody body) = body := by
  unfold spacedBody
  split
  · next hb => rw [hb]; rfl
  · rw [trim, trimStart_cons_of_blank isBlank_space]
    exact h

theorem newline_not_mem_spacedBody (h : '\n' ∉ body) : '\n' ∉ spacedBody body := by
  unfold spacedBody
  split
  · exact List.not_mem_nil
  · simp only [List.mem_cons, not_or]
    exact ⟨by decide, h⟩

theorem spacedBody_eq_nil_or_cons (body : Text) :
    spacedBody body = [] ∨ ∃ c s, spacedBody body = c :: s ∧ isBlank c = true := by
  unfold spacedBody
  split
  · exact Or.inl rfl
  · exact Or.inr ⟨' ', body, rfl, isBlank_space⟩

end Colon

end DiagramText
