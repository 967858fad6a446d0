import DiagramText.Note
import DiagramText.Proofs.Message

/-!
# Notes with mended spaces

- The participants of a note reach to the first colon behind their first character (`participantsAndBody?_eq_some_iff`);
  where there is none, a blank stands for them, and the only colon is the first character behind the blanks
  (`spacedParticipantsAndBody?_eq_append`);
- a note is `note`, a position, participants, a colon and a body, with space between the first three
  (`Note.ofText?_eq_append`); mending its spaces and its keywords keeps all that is not blank, in one case
  (`plain_normalizeNote`);
- the mended line is read as the same note if it has participants, and otherwise is no note any more
  (`Note.ofText?_toText`): either way, mending it again changes nothing (`normalizeNote_normalizeNote`).
-/

namespace DiagramText

open Text

variable {line text rest raw body : Text} {n : Note} {position : NotePosition}

/-! ## Participants -/

section Participants

theorem body?_eq_some_iff (hn : '\n' ∉ text) :
    Note.body? text = some body ↔ ∃ rest, text = ':' :: rest ∧ body = trim rest := by
  constructor
  · intro h
    rw [Note.body?.eq_def] at h
    split at h
    · next rest =>
      simp only at h
      split at h
      · cases h
      · cases h
        exact ⟨rest, rfl, by rw [trim, trim, trimStart_trimStart]⟩
    · cases h
  · rintro ⟨rest, rfl, rfl⟩
    have hn' : '\n' ∉ trimStart rest := fun h => by
      obtain ⟨gap, _, hr⟩ := exists_gap_trimStart rest
      exact hn (List.mem_cons_of_mem _ (hr ▸ List.mem_append_right gap h))
    simp only [Note.body?, if_neg hn']
    rw [trim, trim, trimStart_trimStart]

/-- The participants reach to the first colon behind their first character. -/
theorem participantsAndBody?_eq_some_iff (hn : '\n' ∉ text) : Note.participantsAndBody? text = some (raw, body) ↔
    ∃ c t rest, raw = c :: t ∧ ':' ∉ t ∧ text = raw ++ ':' :: rest ∧ body = trim rest := by
  constructor
  · intro h
    obtain ⟨s, rfl, hshortest⟩ := shortestRun_eq_some_iff.mp h
    have hs : '\n' ∉ s := fun hm => hn (List.mem_append_right raw hm)
    obtain ⟨rest, rfl, hbody⟩ := (body?_eq_some_iff hs).mp hshortest.eq_some
    obtain ⟨c, t, hct⟩ := List.exists_cons_of_ne_nil hshortest.ne_nil
    refine ⟨c, t, rest, hct, fun hcolon => ?_, rfl, hbody⟩
    obtain ⟨a, b, hab⟩ := List.append_of_mem hcolon
    have hnone := hshortest.shortest (c :: a) (':' :: b) (by rw [hct, hab]; rfl) (List.cons_ne_nil _ _)
      (List.cons_ne_nil _ _)
    have hsplit : raw ++ ':' :: rest = (c :: a) ++ (':' :: b ++ ':' :: rest) := by
      rw [hct, hab]
      simp
    have hn' : '\n' ∉ ':' :: b ++ ':' :: rest := fun hm => hn (hsplit ▸ List.mem_append_right (c :: a) hm)
    rw [(body?_eq_some_iff hn').mpr ⟨_, rfl, rfl⟩] at hnone
    cases hnone
  · rintro ⟨c, t, rest, rfl, hcolon, rfl, hbody⟩
    have hbehind : '\n' ∉ ':' :: rest := fun hm => hn (List.mem_append_right (c :: t) hm)
    refine shortestRun_eq_some_iff.mpr ⟨':' :: rest, rfl, ?_, List.cons_ne_nil c t, ?_, ?_⟩
    · refine List.all_eq_true.mpr fun d hd => decide_eq_true fun hdn => hn ?_
      exact hdn ▸ List.mem_append_left _ hd
    · exact (body?_eq_some_iff hbehind).mpr ⟨rest, rfl, hbody⟩
    · intro less more hsplit hless hmore
      obtain ⟨d, less, rfl⟩ := List.exists_cons_of_ne_nil hless
      obtain ⟨e, more, rfl⟩ := List.exists_cons_of_ne_nil hmore
      have he : e ≠ ':' := fun he => hcolon (by
        rw [(List.cons.inj hsplit).2, he]
        simp)
      rw [List.cons_append, Note.body?.eq_def]
      split
      · next h => exact absurd (List.cons.inj h).1 he
      · rfl

/-- No participants are read where no colon follows the first character. -/
theorem participantsAndBody?_eq_none_iff (hn : '\n' ∉ text) :
    Note.participantsAndBody? text = none ↔ ':' ∉ text.tail := by
  rw [Option.eq_none_iff_forall_ne_some]
  constructor
  · intro h hcolon
    cases text with
    | nil => cases hcolon
    | cons c text =>
      obtain ⟨a, b, hab, ha⟩ := List.eq_append_cons_of_mem hcolon
      refine h (c :: a, trim b) ((participantsAndBody?_eq_some_iff hn).mpr ⟨c, a, b, rfl, ha, ?_, rfl⟩)
      rw [show text = a ++ ':' :: b from hab]
      rfl
  · rintro h ⟨raw, body⟩ hread
    obtain ⟨c, t, rest, rfl, _, rfl, _⟩ := (participantsAndBody?_eq_some_iff hn).mp hread
    exact h (by simp)

/-- Where no participants are read but behind one more blank, that blank stands for them and a colon follows it. -/
theorem participantsAndBody?_cons {last : Char} (hn : '\n' ∉ last :: text)
    (hnone : Note.participantsAndBody? text = none) (h : Note.participantsAndBody? (last :: text) = some (raw, body)) :
    ∃ rest, raw = [last] ∧ text = ':' :: rest ∧ body = trim rest ∧ ':' ∉ rest := by
  obtain ⟨c, t, rest, rfl, _, hread, hbody⟩ := (participantsAndBody?_eq_some_iff hn).mp h
  have hcolon := (participantsAndBody?_eq_none_iff fun hm => hn (List.mem_cons_of_mem last hm)).mp hnone
  have htext : text = t ++ ':' :: rest := (List.cons.inj hread).2
  rw [htext] at hcolon
  cases t with
  | nil => exact ⟨rest, by rw [(List.cons.inj hread).1], htext, hbody, hcolon⟩
  | cons d t => exact absurd (by simp) hcolon

/-- Behind a space stand the participants and a colon, or a blank for the participants where a colon would be their
first character. -/
theorem spacedParticipantsAndBody?_eq_append (hn : '\n' ∉ text)
    (h : Note.spacedParticipantsAndBody? text = some (raw, body)) :
    ∃ s rest, IsSpace s ∧ text = s ++ raw ++ ':' :: rest ∧ body = trim rest ∧
      ((∃ c t, raw = c :: t ∧ isBlank c = false ∧ ':' ∉ t) ∨ IsGap raw ∧ ':' ∉ rest) := by
  cases text with
  | nil => cases h
  | cons c text =>
    rw [Note.spacedParticipantsAndBody?] at h
    split at h
    · next hc =>
      have hsplit := indentation_append_trimStart text
      have hstart : '\n' ∉ trimStart text := fun hm =>
        hn (List.mem_cons_of_mem c (hsplit ▸ List.mem_append_right (indentation text) hm))
      split at h
      · next read hread =>
        cases h
        obtain ⟨d, t, rest, rfl, hcolon, htext, hbody⟩ := (participantsAndBody?_eq_some_iff hstart).mp hread
        refine ⟨c :: indentation text, rest, isSpace_cons hc (isGap_indentation text), ?_, hbody,
          Or.inl ⟨d, t, rfl, ?_, hcolon⟩⟩
        · rw [List.append_assoc, ← htext, List.cons_append, hsplit]
        · rcases trimStart_eq_nil_or_cons text with h' | ⟨e, s, h', he⟩
          · rw [h'] at htext
            cases htext
          · rw [h'] at htext
            exact (List.cons.inj htext).1 ▸ he
      · next hnone =>
        split at h
        · next last hlast =>
          obtain ⟨gap, hgap⟩ := List.getLast?_eq_some_iff.mp hlast
          have hg := isGap_append.mp (hgap ▸ isGap_indentation text)
          have htext : text = gap ++ last :: trimStart text := by
            conv => lhs; rw [← hsplit, hgap]
            simp
          have hn' : '\n' ∉ last :: trimStart text := fun hm =>
            hn (List.mem_cons_of_mem c (htext ▸ List.mem_append_right gap hm))
          obtain ⟨rest, rfl, hbehind, hbody, hcolon⟩ := participantsAndBody?_cons hn' hnone h
          refine ⟨c :: gap, rest, isSpace_cons hc hg.1, ?_, hbody, Or.inr ⟨hg.2, hcolon⟩⟩
          rw [htext, hbehind]
          simp
        · cases h
    · cases h

/-- Participants are read again behind a single space. -/
theorem spacedParticipantsAndBody?_spaced {c : Char} {t : Text} (hc : isBlank c = false) (ht : ':' ∉ t)
    (hn : '\n' ∉ c :: t ++ ':' :: rest) :
    Note.spacedParticipantsAndBody? (' ' :: (c :: t ++ ':' :: rest)) = some (c :: t, trim rest) := by
  have hread : Note.participantsAndBody? (c :: t ++ ':' :: rest) = some (c :: t, trim rest) :=
    (participantsAndBody?_eq_some_iff hn).mpr ⟨c, t, rest, rfl, ht, rfl, rfl⟩
  have hstart : trimStart (c :: t ++ ':' :: rest) = c :: t ++ ':' :: rest := trimStart_cons_of_not_blank hc _
  rw [Note.spacedParticipantsAndBody?, if_pos isBlank_space, hstart, hread]

/-- Nothing is read behind a single space where a colon follows it and no other colon does. -/
theorem spacedParticipantsAndBody?_colon (hcolon : ':' ∉ rest) (hn : '\n' ∉ rest) :
    Note.spacedParticipantsAndBody? (' ' :: ':' :: rest) = none := by
  have hn' : '\n' ∉ ':' :: rest := by
    rw [List.mem_cons, not_or]
    exact ⟨by decide, hn⟩
  have hread : Note.participantsAndBody? (':' :: rest) = none := (participantsAndBody?_eq_none_iff hn').mpr hcolon
  have hstart : trimStart (':' :: rest) = ':' :: rest := trimStart_cons_of_not_blank (by decide) _
  rw [Note.spacedParticipantsAndBody?, if_pos isBlank_space, hstart, hread]
  rfl

end Participants

/-! ## Notes -/

section Notes

/-- The parts of a note make up its line, with space between them. -/
theorem Note.ofText?_eq_append (hn : '\n' ∉ line) (h : Note.ofText? line = some n) :
    ∃ read s read' s' raw rest, IsSpace s ∧ IsSpace s' ∧ read.map foldLetter = "note".toList ∧
      read'.map foldLetter = n.position.keyword.toList ∧
      line = read ++ s ++ read' ++ s' ++ raw ++ ':' :: rest ∧ n.participants = trim raw ∧ n.body = trim rest ∧
      ((∃ c t, raw = c :: t ∧ isBlank c = false ∧ ':' ∉ t) ∨ IsGap raw ∧ ':' ∉ rest) := by
  rw [Note.ofText?] at h
  split at h
  · next c text hnote =>
    obtain ⟨read, hr, hfold⟩ := afterKeyword?_eq_some_iff.mp hnote
    split at h
    · next hc =>
      split at h
      · next position behind hposition =>
        obtain ⟨⟨raw, body⟩, hread, he⟩ := Option.map_eq_some_iff.mp h
        cases he
        obtain ⟨position', _, hfind⟩ := List.exists_of_findSome?_eq_some hposition
        obtain ⟨_, hkeyword, he⟩ := Option.map_eq_some_iff.mp hfind
        cases he
        obtain ⟨read', hr', hfold'⟩ := afterKeyword?_eq_some_iff.mp hkeyword
        obtain ⟨gap, hg, ht⟩ := exists_gap_trimStart text
        have hline : line = read ++ (c :: gap) ++ read' ++ behind := by
          rw [hr, ht, hr']
          simp
        have hn' : '\n' ∉ behind := fun hm => hn (hline ▸ List.mem_append_right _ hm)
        obtain ⟨s', rest, hs', hbehind, hbody, hraw⟩ := spacedParticipantsAndBody?_eq_append hn' hread
        refine ⟨read, c :: gap, read', s', raw, rest, isSpace_cons hc hg, hs', hfold, hfold', ?_, rfl, hbody, hraw⟩
        rw [hline, hbehind]
        simp
      · cases h
    · cases h
  · cases h

/-- A mended note, where no blank is left at its end. -/
theorem Note.toText_eq (hn : '\n' ∉ line) (h : Note.ofText? line = some n) :
    n.toText = "note ".toList ++ n.position.keyword.toList ++ ' ' :: n.participants ++ ':' :: spacedBody n.body := by
  obtain ⟨_, _, _, _, _, _, _, _, _, _, _, _, hbody, _⟩ := Note.ofText?_eq_append hn h
  exact trimEnd_colon (fun c hc => last_trimEnd _ c (hbody ▸ hc)) _

/-- What is read behind the space that follows a position decides about a note with single spaces. -/
theorem Note.ofText?_spaced (position : NotePosition) (behind : Text) :
    Note.ofText? ("note ".toList ++ position.keyword.toList ++ behind) =
      (Note.spacedParticipantsAndBody? behind).map fun (participants, body) =>
        ⟨position, trim participants, body⟩ := by
  have hnote : afterKeyword? "note" ("note ".toList ++ position.keyword.toList ++ behind) =
      some (' ' :: (position.keyword.toList ++ behind)) := rfl
  have hstart : trimStart (position.keyword.toList ++ behind) = position.keyword.toList ++ behind := by
    cases position <;> exact trimStart_cons_of_not_blank (by decide) _
  have hposition : Note.positionAndRest? (position.keyword.toList ++ behind) = some (position, behind) := by
    cases position <;> rfl
  rw [Note.ofText?, hnote]
  simp only [if_pos isBlank_space, hstart, hposition]

theorem newline_not_mem_note (hn : '\n' ∉ line) (h : Note.ofText? line = some n) :
    '\n' ∉ n.participants ∧ '\n' ∉ n.body := by
  obtain ⟨_, _, _, _, raw, rest, _, _, _, _, hline, hparticipants, hbody, _⟩ := Note.ofText?_eq_append hn h
  rw [hline] at hn
  simp only [List.mem_append, List.mem_cons, not_or] at hn
  rw [hparticipants, hbody]
  exact ⟨fun hm => hn.1.2 (mem_of_mem_trim hm), fun hm => hn.2.2 (mem_of_mem_trim hm)⟩

/-- A mended note is read as the same note, if it has participants; otherwise it is no note any more. -/
theorem Note.ofText?_toText (hn : '\n' ∉ line) (h : Note.ofText? line = some n) :
    Note.ofText? n.toText = if n.participants = [] then none else some n := by
  obtain ⟨_, _, _, _, raw, rest, _, _, _, _, _, hparticipants, hbody, hraw⟩ := Note.ofText?_eq_append hn h
  have hnewline := newline_not_mem_note hn h
  have hnbody := newline_not_mem_spacedBody hnewline.2
  rw [Note.toText_eq hn h, List.append_assoc, Note.ofText?_spaced]
  rcases hraw with ⟨c, t, rfl, hc, ht⟩ | ⟨hgap, hcolon⟩
  · obtain ⟨t', gap, htrim, hsplit⟩ := exists_trim_cons hc t
    have hp : n.participants = c :: t' := hparticipants.trans htrim
    have ht' : ':' ∉ t' := fun hm => ht (hsplit ▸ List.mem_append_left gap hm)
    have hne : n.participants ≠ [] := by
      rw [hp]
      exact List.cons_ne_nil c t'
    have hn' : '\n' ∉ c :: t' ++ ':' :: spacedBody n.body := by
      rw [← hp, List.mem_append, List.mem_cons]
      exact not_or.mpr ⟨hnewline.1, not_or.mpr ⟨by decide, hnbody⟩⟩
    have hread := spacedParticipantsAndBody?_spaced hc ht' hn'
    have hagain : trim (c :: t') = n.participants := by
      rw [← hp, hparticipants, trim_trim]
    have hbody' : trim (spacedBody n.body) = n.body := trim_spacedBody (by rw [hbody, trim_trim])
    rw [if_neg hne, List.cons_append, hp, hread]
    simp only [Option.map_some, hagain, hbody']
  · have hnil : n.participants = [] := by
      rw [hparticipants]
      exact trim_eq_nil_iff.mpr hgap
    have hcolon' : ':' ∉ spacedBody n.body := by
      rw [spacedBody, hbody]
      split
      · exact List.not_mem_nil
      · rw [List.mem_cons, not_or]
        exact ⟨by decide, fun hm => hcolon (mem_of_mem_trim hm)⟩
    rw [if_pos hnil, hnil, List.singleton_append, spacedParticipantsAndBody?_colon hcolon' hnbody]
    rfl

end Notes

/-! ## Mended lines -/

section Mended

theorem normalizeNote_normalizeNote (hn : '\n' ∉ line) :
    normalizeNote (normalizeNote line) = normalizeNote line := by
  cases h : Note.ofText? line with
  | none => simp only [normalizeNote, h]
  | some n =>
    simp only [normalizeNote, h, Note.ofText?_toText hn h]
    split
    · next he =>
      split at he
      · cases he
      · cases he
        rfl
    · rfl

/-- Mending the spaces of a note keeps all that is not blank, in one case. -/
theorem plain_normalizeNote (hn : '\n' ∉ line) : plain (normalizeNote line) = plain line := by
  unfold normalizeNote
  split
  · next n h =>
    obtain ⟨read, s, read', s', raw, rest, hs, hs', hfold, hfold', hline, hparticipants, hbody, _⟩ :=
      Note.ofText?_eq_append hn h
    have hnote : plain read = plain "note ".toList := by
      rw [plain_of_map_foldLetter (by decide) hfold]
      decide
    have hposition : plain read' = plain n.position.keyword.toList :=
      plain_of_map_foldLetter (by cases n.position <;> decide) hfold'
    have hparticipants' : plain (' ' :: n.participants) = plain raw := by
      rw [plain_cons_of_blank isBlank_space, hparticipants, plain_trim]
    have hbody' : plain (spacedBody n.body) = plain rest := by
      rw [← plain_trim, trim_spacedBody (by rw [hbody, trim_trim]), hbody, plain_trim]
    rw [Note.toText_eq hn h, hline]
    simp only [plain_append, plain_cons ':', plain_gap hs.1, plain_gap hs'.1, hnote, hposition, hparticipants', hbody',
      List.nil_append, List.append_assoc]
  · rfl

/-- A mended note is tight. -/
theorem Note.isTight_toText (hn : '\n' ∉ line) (h : Note.ofText? line = some n) : IsTight n.toText := by
  have hnewline := newline_not_mem_note hn h
  have hkeyword : '\n' ∉ n.position.keyword.toList := by cases n.position <;> decide
  refine ⟨?_, 'n', _, Note.toText_eq hn h, by decide⟩
  rw [Note.toText]
  refine IsTail.of_trimEnd ?_
  simp only [List.mem_append, List.mem_cons, not_or]
  exact ⟨⟨⟨by decide, hkeyword⟩, by decide, hnewline.1⟩, by decide, by decide, hnewline.2⟩

theorem isTight_normalizeNote (h : IsTight line) : IsTight (normalizeNote line) := by
  unfold normalizeNote
  split
  · next n hn => exact Note.isTight_toText h.newline hn
  · exact h

/-- A mended note starts with the word `note`. -/
theorem Note.firstWord_toText (hn : '\n' ∉ line) (h : Note.ofText? line = some n) :
    firstWord n.toText = "note".toList := by
  rw [Note.toText_eq hn h]
  rfl

/-- A mended note is no message: no arrow stands in its first word, or behind it. -/
theorem Message.ofText?_note (hn : '\n' ∉ line) (h : Note.ofText? line = some n) :
    Message.ofText? n.toText = none := by
  rw [Option.eq_none_iff_forall_ne_some]
  intro m hm
  obtain ⟨ha, _, _, g0, g1, g2, rest, hg0, _, _, hline, _⟩ := Message.ofText?_eq_append hm
  obtain ⟨arrow, harrow⟩ := head_of_mem_messageArrows ha
  obtain ⟨c, behind, htext, hc, hdash⟩ : ∃ c behind, n.toText = "note".toList ++ ' ' :: c :: behind ∧
      isBlank c = false ∧ c ≠ '-' := by
    rw [Note.toText_eq hn h]
    cases n.position with
    | across => exact ⟨'o', _, rfl, by decide, by decide⟩
    | leftOf => exact ⟨'l', _, rfl, by decide, by decide⟩
    | rightOf => exact ⟨'r', _, rfl, by decide, by decide⟩
  have hblank : ' ' ∉ m.source := fun hs => by cases not_blank_of_mem_source hm ' ' hs
  rw [htext, harrow, List.append_assoc] at hline
  obtain ⟨q, hq, hrest⟩ := exists_append_of_not_mem hline.symm ⟨' ', _, rfl, hblank⟩
  -- Behind the source comes the rest of `note`, or the position.
  have harrow' : trimStart (q ++ ' ' :: c :: behind) = '-' :: (arrow ++ g1 ++ m.target ++ g2 ++ ':' :: rest) := by
    rw [← hrest]
    simp only [List.append_assoc, List.cons_append]
    rw [trimStart_gap_append hg0]
    exact trimStart_cons_of_not_blank (by decide) _
  cases q with
  | nil =>
    rw [List.nil_append, trimStart_cons_of_blank isBlank_space, trimStart_cons_of_not_blank hc] at harrow'
    exact hdash (List.cons.inj harrow').1
  | cons d q =>
    have hd : d ∈ "note".toList := by
      rw [hq]
      simp
    have hall : ("note".toList.all fun d => !isBlank d && d != '-') = true := by decide
    have hletter : isBlank d = false ∧ d ≠ '-' := by simpa using List.all_eq_true.mp hall d hd
    rw [List.cons_append, trimStart_cons_of_not_blank hletter.1] at harrow'
    exact hletter.2 (List.cons.inj harrow').1

end Mended

end DiagramText
