import DiagramText.Declaration
import DiagramText.Proofs.Text.Keyword

/-!
# Declarations with mended spaces

A declaration is the keyword of its role, an identifier, and perhaps `as` and the name that is shown, with blanks
between them (`Declaration.ofText?_eq_append`). Mending its spaces and its keywords keeps the declaration
(`Declaration.ofText?_toText`) and all that is not blank, in one case (`plain_normalizeDeclaration`).
-/

namespace DiagramText

open Text

variable {line text rest read : Text} {d : Declaration} {shown : Option Text} {role : Role}

/-! ## The keyword of a role -/

section Roles

/-- The keyword of a role holds no blank, and no letter but its own is folded to one of it. -/
theorem Role.letters (role : Role) : role.keyword.toList.any isBlank = false ∧ 's' ∉ role.keyword.toList ∧
    '\u017F' ∉ role.keyword.toList := by
  cases role <;> decide

theorem Role.map_lowerLetter (h : read.map foldLetter = role.keyword.toList) :
    read.map lowerLetter = role.keyword.toList :=
  (map_foldLetter_iff role.letters.2.1 role.letters.2.2).mp h

/-- A keyword in any case starts with a character that is no blank. -/
theorem Role.exists_cons (h : read.map foldLetter = role.keyword.toList) :
    ∃ c rest, read = c :: rest ∧ isBlank c = false := by
  have hblank := not_blank_of_map_lowerLetter role.letters.1 (Role.map_lowerLetter h)
  cases read with
  | nil => cases role <;> cases h
  | cons c rest => exact ⟨c, rest, rfl, hblank c List.mem_cons_self⟩

theorem Role.ofText?_eq_some_iff : Role.ofText? text = some (role, rest) ↔
    ∃ read, text = read ++ rest ∧ read.map foldLetter = role.keyword.toList := by
  refine ⟨fun h => ?_, ?_⟩
  · obtain ⟨role', _, h⟩ := List.exists_of_findSome?_eq_some h
    obtain ⟨rest', hread, he⟩ := Option.map_eq_some_iff.mp h
    cases he
    exact afterKeyword?_eq_some_iff.mp hread
  rintro ⟨read, rfl, hread⟩
  have hkeyword : afterKeyword? role.keyword (read ++ rest) = some rest :=
    afterKeyword?_eq_some_iff.mpr ⟨read, rfl, hread⟩
  rw [Role.ofText?, List.findSome?_cons]
  cases role with
  | participant => rw [hkeyword]; rfl
  | actor =>
    have hother : afterKeyword? Role.participant.keyword (read ++ rest) = none := by
      obtain ⟨c, read, rfl, -⟩ := Role.exists_cons hread
      have hc : foldLetter c = 'a' := (List.cons.inj hread).1
      exact if_neg (by rw [hc]; decide)
    rw [hother, List.findSome?_cons, hkeyword]
    rfl

theorem Role.ofText?_keyword (role : Role) (rest : Text) :
    Role.ofText? (role.keyword.toList ++ rest) = some (role, rest) :=
  Role.ofText?_eq_some_iff.mpr ⟨_, rfl, by cases role <;> decide⟩

end Roles

/-! ## The parts of a declaration -/

section Parts

/-- The name that is shown follows the keyword `as`, with space around it. -/
theorem shownName?_eq_append (h : IsTail text) (hs : Declaration.shownName? text = some shown) :
    shown = none ∧ text = [] ∨ ∃ name s read s', shown = some name ∧ IsTight name ∧ IsSpace s ∧ IsSpace s' ∧
      read.map foldLetter = "as".toList ∧ text = s ++ read ++ s' ++ name := by
  cases text with
  | nil =>
    cases hs
    exact Or.inl ⟨rfl, rfl⟩
  | cons c text =>
    rw [Declaration.shownName?] at hs
    split at hs
    · next hc =>
      split at hs
      · next rest hread =>
        obtain ⟨read, hr, hfold⟩ := afterKeyword?_eq_some_iff.mp hread
        obtain ⟨name, hname, he⟩ := Option.map_eq_some_iff.mp hs
        obtain ⟨htight, s', hs', hrest⟩ := spacedRemainder?_eq_append (h.of_cons.of_trimStart_eq hr) hname
        obtain ⟨gap, hg, ht⟩ := exists_gap_trimStart text
        refine Or.inr ⟨name, c :: gap, read, s', ?_, htight, isSpace_cons hc hg, hs', hfold, ?_⟩
        · rw [← he, htight.trim_eq]
        · rw [ht, hr, hrest]
          simp
      · cases hs
    · cases hs

/-- The parts of a declaration make up its line, with space between them. -/
theorem Declaration.ofText?_eq_append (h : IsTail line) (hd : Declaration.ofText? line = some d) :
    d.id ≠ [] ∧ (∀ c ∈ d.id, isBlank c = false) ∧ ∃ read s tail, IsSpace s ∧
      read.map foldLetter = d.role.keyword.toList ∧ line = read ++ s ++ d.id ++ tail ∧
      (d.shownName = none ∧ tail = [] ∨ ∃ name s read s', d.shownName = some name ∧ IsTight name ∧ IsSpace s ∧
        IsSpace s' ∧ read.map foldLetter = "as".toList ∧ tail = s ++ read ++ s' ++ name) := by
  rw [Declaration.ofText?] at hd
  split at hd
  · next role c rest hrole =>
    obtain ⟨read, hr, hfold⟩ := Role.ofText?_eq_some_iff.mp hrole
    simp only at hd
    split at hd
    · next hc =>
      obtain ⟨shown, hshown, he⟩ := Option.map_eq_some_iff.mp hd
      cases he
      obtain ⟨gap, hg, ht⟩ := exists_gap_trimStart rest
      have htail : IsTail ((trimStart rest).dropWhile (!isBlank ·)) := by
        have hrest : IsTail (trimStart rest) := by
          rw [hr] at h
          exact h.of_append.of_cons.trimStart
        rw [← List.takeWhile_append_dropWhile (p := (!isBlank ·)) (l := trimStart rest)] at hrest
        exact hrest.of_append
      refine ⟨hc.2, fun c hc => not_blank_of_mem_firstWord hc, read, c :: gap, _, isSpace_cons hc.1 hg, hfold, ?_,
        shownName?_eq_append htail hshown⟩
      rw [List.append_assoc _ (List.takeWhile _ _), List.takeWhile_append_dropWhile, hr, ht, trimStart_gap_append hg,
        trimStart_trimStart]
      simp
    · cases hd
  · cases hd

end Parts

/-! ## Mended declarations -/

/-- What stands behind the identifier of a mended declaration. -/
def Declaration.behindId (d : Declaration) : Text :=
  match d.shownName with
  | some shown => " as ".toList ++ shown
  | none => []

section Mended

theorem Declaration.toText_eq (d : Declaration) : d.toText = d.role.keyword.toList ++ ' ' :: (d.id ++ d.behindId) :=
  List.append_assoc d.role.keyword.toList (' ' :: d.id) d.behindId

/-- A shown name is read behind single spaces. -/
theorem shownName?_spaced {name : Text} (h : IsTight name) :
    Declaration.shownName? (" as ".toList ++ name) = some (some name) := by
  have hstart : trimStart ('a' :: 's' :: ' ' :: name) = 'a' :: 's' :: ' ' :: name :=
    trimStart_cons_of_not_blank (by decide) _
  have has : afterKeyword? "as" ('a' :: 's' :: ' ' :: name) = some (' ' :: name) := rfl
  show Declaration.shownName? (' ' :: 'a' :: 's' :: ' ' :: name) = _
  rw [Declaration.shownName?, if_pos isBlank_space, hstart, has]
  simp only [spacedRemainder?, if_pos isBlank_space, h.toIsTail.remainder?_eq, if_neg h.ne_nil, h.trimStart_eq,
    h.trim_eq, Option.map_some]

/-- Mending the spaces of a declaration keeps the declaration. -/
theorem Declaration.ofText?_toText (h : IsTail line) (hd : Declaration.ofText? line = some d) :
    Declaration.ofText? d.toText = some d := by
  obtain ⟨hne, hid, _, _, tail, _, _, _, hshown⟩ := Declaration.ofText?_eq_append h hd
  obtain ⟨c, id, hc⟩ := List.exists_cons_of_ne_nil hne
  have hbehind : (d.behindId = [] ∨ ∃ c s, d.behindId = c :: s ∧ isBlank c = true) ∧
      Declaration.shownName? d.behindId = some d.shownName := by
    rcases hshown with ⟨hnone, _⟩ | ⟨name, _, _, _, hname, htight, _⟩
    · rw [Declaration.behindId, hnone]
      exact ⟨Or.inl rfl, rfl⟩
    · rw [Declaration.behindId, hname]
      exact ⟨Or.inr ⟨' ', _, rfl, isBlank_space⟩, shownName?_spaced htight⟩
  have hstart : trimStart (d.id ++ d.behindId) = d.id ++ d.behindId := by
    rw [hc]
    exact trimStart_cons_of_not_blank (hid c (by rw [hc]; exact List.mem_cons_self)) _
  have htake : (d.id ++ d.behindId).takeWhile (!isBlank ·) = d.id := firstWord_append_of_not_blank hid hbehind.1
  have hcond : isBlank ' ' = true ∧ d.id ≠ [] := ⟨isBlank_space, hne⟩
  rw [Declaration.toText_eq, Declaration.ofText?, Role.ofText?_keyword]
  simp only [hstart, htake, dropWhile_append_of_not_blank hid hbehind.1, hbehind.2, if_pos hcond, Option.map_some]

theorem normalizeDeclaration_normalizeDeclaration (h : IsTail line) :
    normalizeDeclaration (normalizeDeclaration line) = normalizeDeclaration line := by
  cases hd : Declaration.ofText? line with
  | none => simp only [normalizeDeclaration, hd]
  | some d => simp only [normalizeDeclaration, hd, Declaration.ofText?_toText h hd]

/-- Mending the spaces of a declaration keeps all that is not blank, in one case. -/
theorem plain_normalizeDeclaration (h : IsTail line) : plain (normalizeDeclaration line) = plain line := by
  unfold normalizeDeclaration
  split
  · next d hd =>
    obtain ⟨_, _, read, s, tail, hs, hfold, hline, hshown⟩ := Declaration.ofText?_eq_append h hd
    have hrole : plain read = plain d.role.keyword.toList :=
      plain_of_map_foldLetter (by cases d.role <;> decide) hfold
    have hspace : plain (' ' :: (d.id ++ d.behindId)) = plain d.id ++ plain d.behindId := by
      rw [plain_cons_of_blank isBlank_space, plain_append]
    have htail : plain d.behindId = plain tail := by
      rcases hshown with ⟨hnone, rfl⟩ | ⟨name, s1, read', s2, hname, _, hs1, hs2, hfold', rfl⟩
      · rw [Declaration.behindId, hnone]
      · have has : plain read' = plain " as ".toList := by
          rw [plain_of_map_foldLetter (by decide) hfold']
          decide
        rw [Declaration.behindId, hname]
        simp only [plain_append, has, plain_gap hs1.1, plain_gap hs2.1, List.nil_append, List.append_assoc]
    rw [hline, Declaration.toText_eq]
    simp only [plain_append, hspace, hrole, htail, plain_gap hs.1, List.nil_append, List.append_assoc]
  · rfl

/-- A mended declaration is tight. -/
theorem Declaration.isTight_toText (h : IsTail line) (hd : Declaration.ofText? line = some d) : IsTight d.toText := by
  obtain ⟨hne, hid, _, _, _, _, _, _, hshown⟩ := Declaration.ofText?_eq_append h hd
  obtain ⟨first, rest, hfirst, hblank, hn⟩ : ∃ c rest, d.role.keyword.toList = c :: rest ∧ isBlank c = false ∧
      '\n' ∉ d.role.keyword.toList := by
    cases d.role with
    | participant => exact ⟨'p', _, rfl, by decide, by decide⟩
    | actor => exact ⟨'a', _, rfl, by decide, by decide⟩
  have hidn : '\n' ∉ d.id := fun hm => by cases hid '\n' hm
  have htail : IsTail (d.id ++ d.behindId) := by
    rcases hshown with ⟨hnone, _⟩ | ⟨name, _, _, _, hname, htight, _⟩
    · rw [Declaration.behindId, hnone, List.append_nil]
      exact ⟨hidn, fun c hc => hid c (List.mem_of_getLast? hc)⟩
    · rw [Declaration.behindId, hname]
      simp only [← List.append_assoc]
      refine htight.toIsTail.append htight.ne_nil ?_
      simp only [List.mem_append, not_or]
      exact ⟨hidn, by decide⟩
  refine ⟨?_, first, rest ++ ' ' :: (d.id ++ d.behindId), ?_, hblank⟩
  · rw [Declaration.toText_eq, List.append_cons]
    refine htail.append (by simp [hne]) ?_
    simp only [List.mem_append, List.mem_singleton, not_or]
    exact ⟨hn, by decide⟩
  · rw [Declaration.toText_eq, hfirst]
    rfl

theorem isTight_normalizeDeclaration (h : IsTight line) : IsTight (normalizeDeclaration line) := by
  unfold normalizeDeclaration
  split
  · next d hd => exact Declaration.isTight_toText h.toIsTail hd
  · exact h

end Mended

end DiagramText
