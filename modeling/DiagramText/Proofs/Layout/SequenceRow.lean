import DiagramText.Layout.Sequence
import DiagramText.Proofs.Declaration
import DiagramText.Proofs.Line
import DiagramText.Proofs.Note
import DiagramText.Proofs.Page

/-!
# The rows of a sequence diagram

- `sequenceRow` is what one line adds to the body: its row, and the depth that it leaves (`sequenceBody_eq_threaded`);
- the text of a row is of the same kind as its line (`ofLine_sequenceText`) and a fixed point
  (`sequenceText_sequenceText`): the mended form of a message has a dash in its first word, so that no keyword
  recognizes it, and the one of a note has no arrow behind its first word;
- the text of a row is its line, but for blanks and the case of keywords (`plain_sequenceText`).
-/

namespace DiagramText

open Text

variable {line : Text}

/-! ## Kinds of mended lines -/

section Kinds

/-- A first word decides about a keyword. -/
theorem startsWithKeyword_of_firstWord {word : String} {first : Text} (hw : word.toList.any isBlank = false)
    (hf : firstWord line = first) (hne : first.map lowerLetter ≠ word.toList) :
    startsWithKeyword word line = false := by
  rw [Bool.eq_false_iff, Ne, startsWithKeyword_iff hw, hf]
  exact hne

/-- The words by which the rules before the notes recognize a line of a sequence diagram. -/
def sequenceKeywords : List String :=
  ["participant", "actor", "else", "loop", "alt", "opt", "par", "and", "critical", "break", "rect", "autonumber",
    "activate", "deactivate", "title"]

theorem isParticipant_eq_false (hparticipant : startsWithKeyword "participant" line = false)
    (hactor : startsWithKeyword "actor" line = false) : isParticipant line = false := by
  have hp : "participant ".toList = "participant".toList ++ [' '] := rfl
  have ha : "actor ".toList = "actor".toList ++ [' '] := rfl
  rw [isParticipant, Bool.or_eq_false_iff, Bool.eq_false_iff, Bool.eq_false_iff]
  refine ⟨fun h => ?_, fun h => ?_⟩
  · rw [startsWithKeyword_of_startsWithLower hp (by decide) h] at hparticipant
    cases hparticipant
  · rw [startsWithKeyword_of_startsWithLower ha (by decide) h] at hactor
    cases hactor

/-- A line that starts with none of the keywords is a note or a statement. -/
theorem ofLine_of_no_keyword (h : IsTight line) (hcomment : (after? "%%".toList line).isSome = false)
    (hheader : isKeyword "sequencediagram" line = false) (hend : isKeyword "end" line = false)
    (hno : ∀ word ∈ sequenceKeywords, startsWithKeyword word line = false) : LineKind.ofLine .sequence line =
      if startsWithKeyword "note" line && (Message.ofText? line).isNone then .note else .statement := by
  have hparticipant := isParticipant_eq_false (hno _ (by decide)) (hno _ (by decide))
  have hblock : (BlockKind.ofSequence.find? fun kind => startsWithKeyword kind.keyword line) = none := by
    have hkeyword : ∀ kind ∈ BlockKind.ofSequence, kind.keyword ∈ sequenceKeywords := by decide
    refine List.find?_eq_none.mpr fun kind hk => ?_
    rw [hno _ (hkeyword kind hk)]
    exact Bool.false_ne_true
  have hdirective : isSequenceDirective line = false := by
    have hword : ∀ word ∈ ["autonumber", "activate", "deactivate", "title"], word ∈ sequenceKeywords := by decide
    refine List.any_eq_false.mpr fun word hw => ?_
    rw [hno _ (hword word hw)]
    exact Bool.false_ne_true
  rw [ofLine_sequence h, hcomment, hheader, hparticipant, hend, hno "else" (by decide), hblock, hdirective]
  rfl

/-- A line that is no comment and has a dash in its first word is a statement. -/
theorem ofLine_of_dash (h : IsTight line) (hcomment : (after? "%%".toList line).isSome = false)
    (hdash : '-' ∈ firstWord line) : LineKind.ofLine .sequence line = .statement := by
  have hdash' : '-' ∈ (firstWord line).map lowerLetter := List.mem_map.mpr ⟨'-', hdash, by decide⟩
  have hmem : '-' ∈ line := by
    obtain ⟨rest, hr, _⟩ := exists_firstWord line
    rw [hr]
    exact List.mem_append_left rest hdash
  have hletters : ∀ word ∈ "note" :: sequenceKeywords,
      word.toList.any isBlank = false ∧ '-' ∉ word.toList := by decide
  have hno : ∀ word ∈ "note" :: sequenceKeywords, startsWithKeyword word line = false := fun word hw =>
    startsWithKeyword_of_firstWord (hletters word hw).1 rfl fun he => (hletters word hw).2 (he ▸ hdash')
  rw [ofLine_of_no_keyword h hcomment (isKeyword_eq_false_of_mem hmem (by decide))
    (isKeyword_eq_false_of_mem hmem (by decide)) fun word hw => hno word (List.mem_cons_of_mem _ hw),
    hno "note" List.mem_cons_self]
  rfl

/-- A line that is laid out as something else is no comment. -/
theorem comment_eq_false (h : IsTight line) (hk : LineKind.ofLine .sequence line ≠ .comment) :
    (after? "%%".toList line).isSome = false := by
  rw [ofLine_sequence h] at hk
  cases hc : (after? "%%".toList line).isSome with
  | false => rfl
  | true =>
    rw [hc] at hk
    exact absurd rfl hk

/-- A mended message is a statement. -/
theorem ofLine_normalizeMessage (h : IsTight line) (hk : LineKind.ofLine .sequence line = .statement) :
    LineKind.ofLine .sequence (normalizeMessage line) = .statement := by
  unfold normalizeMessage
  split
  · next m hm =>
    have hcomment := comment_eq_false h (by rw [hk]; exact LineKind.noConfusion)
    obtain ⟨behind, hline, hshortest⟩ := Message.ofText?_eq_some hm
    obtain ⟨ha, _⟩ := Message.ofText?_eq_append hm
    obtain ⟨arrow, harrow⟩ := head_of_mem_messageArrows ha
    refine ofLine_of_dash (Message.isTight_toText h.newline hm) ?_ ?_
    · have htext : m.toText = m.source ++ '-' :: (arrow ++ m.target ++ ':' :: spacedBody m.body) := by
        rw [Message.toText_eq hm, Message.beforeColon, harrow]
        simp
      rw [hline] at hcomment
      rw [htext]
      exact comment_append hshortest.ne_nil hcomment (by decide) _
    · rw [Message.firstWord_toText hm, Message.beforeColon, harrow]
      simp
  · exact hk

/-- A mended note is a note. -/
theorem ofLine_normalizeNote (h : IsTight line) (hk : LineKind.ofLine .sequence line = .note) :
    LineKind.ofLine .sequence (normalizeNote line) = .note := by
  unfold normalizeNote
  split
  · next n hn =>
    have hfirst := Note.firstWord_toText h.newline hn
    have hblank : ' ' ∈ n.toText := by
      rw [Note.toText_eq h.newline hn]
      simp
    have hcomment : (after? "%%".toList n.toText).isSome = false := by
      rw [Note.toText_eq h.newline hn]
      rfl
    have hother : ∀ word ∈ sequenceKeywords,
        word.toList.any isBlank = false ∧ "note".toList.map lowerLetter ≠ word.toList := by decide
    have hnote : startsWithKeyword "note" n.toText = true := by
      rw [startsWithKeyword_iff (by decide), hfirst]
      decide
    rw [ofLine_of_no_keyword (Note.isTight_toText h.newline hn) hcomment (isKeyword_eq_false_of_mem hblank (by decide))
      (isKeyword_eq_false_of_mem hblank (by decide))
      fun word hw => startsWithKeyword_of_firstWord (hother word hw).1 hfirst (hother word hw).2,
      hnote, Message.ofText?_note h.newline hn]
    rfl
  · exact hk

/-- A mended declaration is a declaration. -/
theorem ofLine_normalizeDeclaration (h : IsTight line) (hk : LineKind.ofLine .sequence line = .declaration) :
    LineKind.ofLine .sequence (normalizeDeclaration line) = .declaration := by
  unfold normalizeDeclaration
  split
  · next d hd =>
    have htight := Declaration.isTight_toText h.toIsTail hd
    have hblank : ' ' ∈ d.toText := by
      rw [Declaration.toText_eq]
      simp
    have hparticipant : isParticipant d.toText = true := by
      rw [Declaration.toText_eq]
      cases d.role <;> rfl
    have hcomment : (after? "%%".toList d.toText).isSome = false := by
      rw [Declaration.toText_eq]
      cases d.role <;> rfl
    rw [ofLine_sequence htight, hcomment, isKeyword_eq_false_of_mem hblank (by decide), hparticipant]
    rfl
  · exact hk

end Kinds

/-! ## Texts of rows -/

section Texts

theorem sequenceText_trim (line : Text) : sequenceText (trim line) = sequenceText line := by
  rw [sequenceText, sequenceText, ofLine_trim, trim_trim]

/-- The text of a row is tight. -/
theorem isTight_sequenceText (h : IsTight line) : IsTight (sequenceText line) := by
  rw [sequenceText, h.trim_eq]
  split
  · exact isTight_normalizeDeclaration h
  · exact isTight_normalizeMessage h
  · exact isTight_normalizeNote h
  · exact h

/-- The text of a row is of the kind of its line. -/
theorem ofLine_sequenceText (h : IsTight line) :
    LineKind.ofLine .sequence (sequenceText line) = LineKind.ofLine .sequence line := by
  rw [sequenceText, h.trim_eq]
  split
  · next hk => rw [hk, ofLine_normalizeDeclaration h hk]
  · next hk => rw [hk, ofLine_normalizeMessage h hk]
  · next hk => rw [hk, ofLine_normalizeNote h hk]
  · rfl

/-- The text of a row is a fixed point. -/
theorem sequenceText_sequenceText (h : IsTight line) : sequenceText (sequenceText line) = sequenceText line := by
  have hkind := ofLine_sequenceText h
  have htrim := (isTight_sequenceText h).trim_eq
  cases hk : LineKind.ofLine .sequence line with
  | declaration =>
    have htext : sequenceText line = normalizeDeclaration line := by rw [sequenceText, hk, h.trim_eq]
    rw [sequenceText, hkind, hk, htrim, htext]
    exact normalizeDeclaration_normalizeDeclaration h.toIsTail
  | statement =>
    have htext : sequenceText line = normalizeMessage line := by rw [sequenceText, hk, h.trim_eq]
    rw [sequenceText, hkind, hk, htrim, htext]
    exact normalizeMessage_normalizeMessage h.newline
  | note =>
    have htext : sequenceText line = normalizeNote line := by rw [sequenceText, hk, h.trim_eq]
    rw [sequenceText, hkind, hk, htrim, htext]
    exact normalizeNote_normalizeNote h.newline
  | _ => rw [sequenceText, hkind, hk, htrim]

/-- The text of a row is its line, blanks and the case of keywords left aside. -/
theorem plain_sequenceText (h : IsTight line) : plain (sequenceText line) = plain line := by
  rw [sequenceText, h.trim_eq]
  split
  · exact plain_normalizeDeclaration h.toIsTail
  · exact plain_normalizeMessage line
  · exact plain_normalizeNote h.newline
  · rfl

end Texts

/-! ## Rows of the body -/

namespace LineKind

/-- The depth of a row in the body, where the lines before it leave a given depth. -/
def bodyDepth (depth : Nat) : LineKind → Nat
  | blockEnd | blockElse => enclosingDepth depth
  | blockStart kind => if kind = .and ∧ 1 < depth then enclosingDepth depth else depth
  | _ => depth

/-- The depth that a line of the body leaves. -/
def bodyDepthBehind (depth : Nat) : LineKind → Nat
  | blockEnd => enclosingDepth depth
  | blockStart kind => if kind = .and ∧ 1 < depth then depth else depth + 1
  | _ => depth

end LineKind

/-- The depth that a line of the body leaves, and its row. -/
def sequenceRow (depth : Nat) (line : Text) : Nat × Row :=
  let kind := LineKind.ofLine .sequence line
  (kind.bodyDepthBehind depth, ⟨kind.bodyDepth depth, sequenceText line⟩)

section Rows

/-- The body passes over its lines, a row for each. -/
theorem sequenceBody_eq_threaded (lines : List (Option Text)) (depth : Nat) :
    sequenceBody depth lines = threaded sequenceRow depth lines := by
  induction lines generalizing depth with
  | nil => rfl
  | cons x lines ih =>
    cases x with
    | none => exact congrArg (none :: ·) (ih depth)
    | some line =>
      rw [sequenceBody, threaded, sequenceRow]
      cases LineKind.ofLine .sequence line with
      | blockStart kind =>
        simp only [LineKind.bodyDepth, LineKind.bodyDepthBehind, ih]
        split <;> rfl
      | _ => exact congrArg (some _ :: ·) (ih _)

theorem sequenceRow_trim (depth : Nat) (line : Text) : sequenceRow depth (trim line) = sequenceRow depth line := by
  rw [sequenceRow, sequenceRow, ofLine_trim, sequenceText_trim]

/-- A row is laid out again as its line was. -/
theorem sequenceRow_sequenceText (h : IsTight line) (depth : Nat) :
    sequenceRow depth (sequenceText line) = sequenceRow depth line := by
  rw [sequenceRow, sequenceRow, ofLine_sequenceText h, sequenceText_sequenceText h]

end Rows

end DiagramText
