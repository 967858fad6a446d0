import DiagramText.Proofs.Layout.SequenceRow
import DiagramText.Proofs.Session

/-!
# Inserted messages

A message that is inserted goes from one identifier to another behind the arrow `->>` (`messageText`). Behind any
indentation it is read with just these ends: an identifier holds no dash, so no shorter source has an arrow behind it
(`ofText?_message`). Its first word holds the dash of the arrow, so that no identifier makes it anything but a
statement, keywords included (`isInsertedMessage_append`). What the actions insert are such messages, between the
participants that the selection asks for (`runAction_messages`).
-/

namespace DiagramText

open Text

/-- Between blanks, a line is a message from a source to a target behind the arrow `->>`, with nothing to mend. -/
structure IsInsertedMessage (line source target : Text) : Prop where
  statement : LineKind.ofLine .sequence (trim line) = .statement
  mended : normalizeMessage (trim line) = trim line
  read : ∃ body, Message.ofText? (trim line) = some ⟨source, "->>".toList, target, body⟩

/-- The line of an inserted message, without its indentation. -/
def messageText (source target body : Text) : Text :=
  source ++ ("->>".toList ++ (target ++ ':' :: ' ' :: body))

variable {source target body rest indent line : Text}

/-! ## The line of a message -/

section Line

theorem isNameCharacter_of_isIdentifier (h : isIdentifier target = true) :
    ∀ c ∈ target, Message.isNameCharacter c = true := by
  intro c hc
  have hpart := isIdentifierPart_of_mem h hc
  exact isNameCharacter_iff.mpr ⟨isBlank_of_isIdentifierPart hpart, ne_of_isIdentifierPart hpart (by decide)⟩

theorem arrowAndBody?_message (h : isIdentifier target = true) (hn : '\n' ∉ rest) :
    Message.arrowAndBody? ("->>".toList ++ (target ++ ':' :: rest)) = some ("->>".toList, target, trim rest) := by
  have hread := targetAndBody?_append (isTight_of_isIdentifier h).ne_nil (isNameCharacter_of_isIdentifier h) hn
  have hstart : trimStart ("->>".toList ++ (target ++ ':' :: rest)) = "->>".toList ++ (target ++ ':' :: rest) :=
    trimStart_cons_of_not_blank (by decide) _
  rw [Message.arrowAndBody?, hstart, firstOf?, Message.arrows, List.findSome?_cons, after?_eq_some_iff.mpr rfl]
  simp only [hread, Option.map_some]

/-- No arrow stands where a part of an identifier does. -/
theorem arrowAndBody?_eq_none {c : Char} (h : isIdentifierPart c = true) (rest : Text) :
    Message.arrowAndBody? (c :: rest) = none := by
  rw [Message.arrowAndBody?, trimStart_cons_of_not_blank (isBlank_of_isIdentifierPart h)]
  refine firstOf?_eq_none_iff.mpr fun arrow ha behind he => ?_
  obtain ⟨t, rfl⟩ := head_of_mem_messageArrows ha
  exact absurd (List.cons.inj he).1 (ne_of_isIdentifierPart h (by decide))

/-- A message between identifiers is read with these ends. -/
theorem ofText?_message (hs : isIdentifier source = true) (ht : isIdentifier target = true) (hn : '\n' ∉ rest) :
    Message.ofText? (source ++ ("->>".toList ++ (target ++ ':' :: rest))) =
      some ⟨source, "->>".toList, target, trim rest⟩ := by
  have hshortest : IsShortestRun (!isBlank ·) Message.arrowAndBody? source ("->>".toList ++ (target ++ ':' :: rest))
      ("->>".toList, target, trim rest) := by
    refine ⟨?_, (isTight_of_isIdentifier hs).ne_nil, arrowAndBody?_message ht hn, fun less more he _ hmore => ?_⟩
    · rw [List.all_eq_true]
      intro c hc
      rw [isBlank_of_isIdentifierPart (isIdentifierPart_of_mem hs hc)]
      rfl
    · obtain ⟨c, more, rfl⟩ := List.exists_cons_of_ne_nil hmore
      exact arrowAndBody?_eq_none (isIdentifierPart_of_mem hs (by rw [he]; simp)) _
  rw [Message.ofText?, shortestRun_eq_some_iff.mpr ⟨_, rfl, hshortest⟩]
  rfl

/-- Without the blanks around it, a message keeps its ends and its arrow. -/
theorem trim_message (hgap : IsGap indent) (hs : isIdentifier source = true) (hb : IsMessageBody body) :
    trim (indent ++ messageText source target body) =
      source ++ ("->>".toList ++ (target ++ ':' :: spacedBody (trim body))) := by
  have hbody : trimEnd body = trim body := by
    rcases hb.first with hblank | ⟨c, behind, rfl, hc⟩
    · rw [trim_eq_nil_iff.mpr hblank]
      exact trimEnd_append_gap hblank []
    · rw [trim, trimStart_cons_of_not_blank hc]
  obtain ⟨gap, hg, hsplit⟩ := exists_gap_trimEnd body
  rw [hbody] at hsplit
  have htext : messageText source target body =
      source ++ ("->>".toList ++ target) ++ ':' :: ' ' :: trim body ++ gap := by
    conv => lhs; rw [messageText, hsplit]
    simp only [List.append_assoc, List.cons_append]
  have hstart : trimStart (messageText source target body) = messageText source target body :=
    (isTight_of_isIdentifier hs).trimStart_append _
  have hlast : ∀ c, (trim body).getLast? = some c → isBlank c = false := last_trimEnd _
  rw [trim, trimStart_gap_append hgap, hstart, htext, trimEnd_append_gap hg, trimEnd_colon hlast]
  simp only [List.append_assoc]

/-- A message between identifiers is inserted as such, whatever the identifiers are. -/
theorem isInsertedMessage_append (hgap : IsGap indent) (hs : isIdentifier source = true)
    (ht : isIdentifier target = true) (hb : IsMessageBody body) :
    IsInsertedMessage (indent ++ messageText source target body) source target := by
  have hn : '\n' ∉ trim body := fun h => hb.newline (mem_of_mem_trim h)
  have htrim : trim (indent ++ messageText source target body) = _ := trim_message hgap hs hb
  have hread := ofText?_message hs ht (newline_not_mem_spacedBody hn)
  rw [trim_spacedBody (trim_trim body)] at hread
  have htext := (Message.toText_eq_append hread).trans (by rw [List.append_assoc])
  have hline : '\n' ∉ source ++ ("->>".toList ++ (target ++ ':' :: spacedBody (trim body))) := by
    simp only [List.mem_append, List.mem_cons, not_or]
    exact ⟨not_mem_of_isIdentifier hs (by decide), by decide, not_mem_of_isIdentifier ht (by decide), by decide,
      newline_not_mem_spacedBody hn⟩
  refine ⟨?_, ?_, ?_⟩
  · rw [htrim, ← htext]
    refine ofLine_of_dash (Message.isTight_toText hline hread) ?_ ?_
    · rw [htext]
      exact comment_of_isIdentifier hs _
    · rw [Message.firstWord_toText hread]
      simp [Message.beforeColon]
  · rw [htrim, normalizeMessage, hread]
    exact htext
  · rw [htrim]
    exact ⟨_, hread⟩

end Line

/-! ## The lines of an action -/

/-- Lines that are inserted for a selection are messages, the first of them from a selected identifier. Of two lines,
the second is a reply to the first. -/
structure AreMessages (selection : Text) (lines : List Text) : Prop where
  messages : ∀ line ∈ lines, ∃ source target, IsInsertedMessage line source target
  selected : isIdentifier selection = true → ∀ first rest, lines = first :: rest →
    ∃ target, IsInsertedMessage first selection target
  reply : ∀ first second, lines = [first, second] →
    ∃ source target, IsInsertedMessage first source target ∧ IsInsertedMessage second target source

/-- The bodies of a message and its reply. -/
def PairKind.bodies : PairKind → Text × Text
  | request => ("Get entity".toList, "Entity".toList)
  | action => ("Perform".toList, "Success".toList)

section Actions

variable {selection first second unit : Text} {kind : PairKind}

theorem areMessages_singleton (h : IsInsertedMessage line source target)
    (hselected : isIdentifier selection = true → source = selection) : AreMessages selection [line] := by
  refine ⟨?_, ?_, fun first second he => by cases he⟩
  · intro line' hl
    rw [List.mem_singleton.mp hl]
    exact ⟨source, target, h⟩
  · rintro hs first rest he
    cases he
    rw [← hselected hs]
    exact ⟨target, h⟩

theorem areMessages_pair (hfirst : IsInsertedMessage first source target)
    (hsecond : IsInsertedMessage second target source)
    (hselected : isIdentifier selection = true → source = selection) : AreMessages selection [first, second] := by
  refine ⟨?_, ?_, ?_⟩
  · intro line hl
    rcases List.mem_cons.mp hl with rfl | hl
    · exact ⟨source, target, hfirst⟩
    · rw [List.mem_singleton.mp hl]
      exact ⟨target, source, hsecond⟩
  · rintro hs first rest he
    cases he
    rw [← hselected hs]
    exact ⟨target, hfirst⟩
  · rintro first second he
    cases he
    exact ⟨source, target, hfirst, hsecond⟩

theorem arrowText_sequence (source : Text) :
    arrowText source .sequence = messageText source "B".toList "message".toList := rfl

theorem PairKind.texts_eq (kind : PairKind) (source : Text) : kind.texts source =
    [messageText source "B".toList kind.bodies.1, messageText "B".toList source kind.bodies.2] := by
  cases kind <;> rw [PairKind.texts, List.append_assoc] <;> rfl

theorem isMessageBody_bodies (kind : PairKind) : IsMessageBody kind.bodies.1 ∧ IsMessageBody kind.bodies.2 := by
  cases kind <;> exact ⟨⟨by decide, Or.inr ⟨_, _, rfl, by decide⟩⟩, ⟨by decide, Or.inr ⟨_, _, rfl, by decide⟩⟩⟩

theorem isGap_nearestIndentation (h : IsGap unit) (d : Document) (n : Nat) : IsGap (d.nearestIndentation n unit) := by
  rcases nearestIndentation_eq_or d n unit with he | ⟨line, -, he⟩ <;> rw [he]
  · exact h
  · exact isGap_indentation line

/-- The reply to a selected message goes from its target to its source. -/
theorem pairTexts_of_message {m : SelectedMessage} (hindent : IsGap indent)
    (hm : SelectedMessage.ofText? selection = some m) : ∃ line,
      (pairTexts kind selection).map (indent ++ ·) = [line] ∧ IsInsertedMessage line m.target m.source := by
  obtain ⟨hsource, htarget, hbody⟩ := SelectedMessage.ofText?_eq_some hm
  have htexts : pairTexts kind selection = [messageText m.target m.source (kind.reply m.body)] := by
    simp [pairTexts, hm, messageText]
  rw [htexts]
  exact ⟨_, rfl, isInsertedMessage_append hindent htarget hsource (isMessageBody_reply kind hbody)⟩

theorem areMessages_pairTexts (hindent : IsGap indent) :
    AreMessages selection ((pairTexts kind selection).map (indent ++ ·)) := by
  cases hm : SelectedMessage.ofText? selection with
  | some m =>
    obtain ⟨line, hline, hread⟩ := pairTexts_of_message hindent hm
    rw [hline]
    refine areMessages_singleton hread fun hs => ?_
    rw [SelectedMessage.ofText?_of_isIdentifier hs] at hm
    cases hm
  | none =>
    have hname : isIdentifier (nameOr selection "A".toList) = true := isIdentifier_nameOr (by decide)
    have htexts : pairTexts kind selection = kind.texts (nameOr selection "A".toList) := by rw [pairTexts, hm]
    obtain ⟨hfirst, hsecond⟩ := isMessageBody_bodies kind
    rw [htexts, PairKind.texts_eq]
    exact areMessages_pair (isInsertedMessage_append hindent hname (by decide) hfirst)
      (isInsertedMessage_append hindent (by decide) hname hsecond) fun hs => if_pos hs

theorem areMessages_arrowText (hindent : IsGap indent) :
    AreMessages selection [indent ++ arrowText (nameOr selection "A".toList) .sequence] := by
  have hname : isIdentifier (nameOr selection "A".toList) = true := isIdentifier_nameOr (by decide)
  rw [arrowText_sequence]
  exact areMessages_singleton (isInsertedMessage_append hindent hname (by decide)
    ⟨by decide, Or.inr ⟨_, _, rfl, by decide⟩⟩) fun hs => if_pos hs

/-- What a pair of messages inserts in a sequence diagram. -/
theorem runAction_pair (kind : PairKind) (d : Document) (cursor : Position) (selection : Text) (hgap : IsGap unit) :
    ∃ plan inserted, runAction kind.toAction d cursor selection ⟨.sequence, unit⟩ = .edit plan ∧
      Inserts plan d cursor.line inserted ∧ FreeOfNewlines d unit inserted ∧
      inserted.length = insertionCount kind.toAction selection ∧ AreMessages selection inserted ∧
      ∀ m, SelectedMessage.ofText? selection = some m →
        ∃ line, inserted = [line] ∧ IsInsertedMessage line m.target m.source := by
  obtain ⟨plan, hplan⟩ : ∃ plan, messagePair? kind d cursor.line selection ⟨.sequence, unit⟩ = some plan := ⟨_, rfl⟩
  have hindent := isGap_nearestIndentation hgap d cursor.line
  have hrun : runAction kind.toAction d cursor selection ⟨.sequence, unit⟩ =
      .ofPlan? (messagePair? kind d cursor.line selection ⟨.sequence, unit⟩) := by
    cases kind <;> rfl
  refine ⟨plan, _, ?_, messagePair?_inserts hplan, freeOfNewlines_nearest newline_not_mem_pairTexts d _ unit, ?_,
    areMessages_pairTexts hindent, fun m hm => pairTexts_of_message hindent hm⟩
  · rw [hrun, hplan]
    rfl
  · rw [List.length_map, length_pairTexts]
    cases kind <;> rfl

/-- **Inserted messages are read as what was asked for.** In a sequence diagram, a new arrow, a request with its
response and an action with its response are edits that insert one or two lines without newlines below the cursor.
Each of them is a statement that is read as a message behind `->>` with nothing to mend. The first one goes out from a
selected identifier, and the second one, where there are two, goes back from the target of the first to its source.
For a selected message, a request or an action inserts the reply alone, from the target of that message to its
source; a new arrow leaves a selected message aside. -/
theorem runAction_messages (d : Document) (cursor : Position) (selection : Text) (hgap : IsGap unit) {action : Action}
    (haction : action ∈ [.newArrow, .requestResponse, .actionResponse]) :
    ∃ plan inserted, runAction action d cursor selection ⟨.sequence, unit⟩ = .edit plan ∧
      Inserts plan d cursor.line inserted ∧ FreeOfNewlines d unit inserted ∧
      inserted.length = insertionCount action selection ∧ AreMessages selection inserted ∧
      ∀ kind m, action = PairKind.toAction kind → SelectedMessage.ofText? selection = some m →
        ∃ line, inserted = [line] ∧ IsInsertedMessage line m.target m.source := by
  obtain rfl | ⟨kind, rfl⟩ : action = .newArrow ∨ ∃ kind, action = PairKind.toAction kind := by
    simp only [List.mem_cons, List.not_mem_nil, or_false] at haction
    rcases haction with h | h | h
    · exact Or.inl h
    · exact Or.inr ⟨.request, h⟩
    · exact Or.inr ⟨.action, h⟩
  · refine ⟨_, _, rfl, newArrow_inserts d cursor.line selection ⟨.sequence, unit⟩,
      freeOfNewlines_newArrow d cursor.line selection ⟨.sequence, unit⟩, rfl,
      areMessages_arrowText (isGap_nearestIndentation hgap d cursor.line), fun kind m he => ?_⟩
    cases kind <;> cases he
  · obtain ⟨plan, inserted, hrun, hins, hfree, hcount, hmessages, hreply⟩ := runAction_pair kind d cursor selection hgap
    exact ⟨plan, inserted, hrun, hins, hfree, hcount, hmessages, fun _ m _ => hreply m⟩

theorem reply_to_selected_message : ∃ plan line,
    runAction .requestResponse (.ofText "sequenceDiagram\n  A->>loop: Get it".toList) ⟨2, 1⟩
      "A->>loop: Get it".toList ⟨.sequence, indentUnit 2⟩ = .edit plan ∧
    Inserts plan (.ofText "sequenceDiagram\n  A->>loop: Get it".toList) 2 [line] ∧
    IsInsertedMessage line "loop".toList "A".toList := by
  have hread : SelectedMessage.ofText? "A->>loop: Get it".toList =
      some ⟨"A".toList, "loop".toList, "Get it".toList⟩ := by decide +kernel
  have haction : Action.requestResponse ∈ [.newArrow, .requestResponse, .actionResponse] := by decide
  obtain ⟨plan, inserted, hrun, hins, -, -, -, hreply⟩ := runAction_messages
    (.ofText "sequenceDiagram\n  A->>loop: Get it".toList) ⟨2, 1⟩ "A->>loop: Get it".toList (isGap_indentUnit 2) haction
  obtain ⟨line, rfl, hline⟩ := hreply .request _ rfl hread
  exact ⟨plan, line, hrun, hins, hline⟩

/-- A new arrow does not reply to a selected message: it goes out from `A`, whatever the ends of that message are. -/
theorem new_arrow_leaves_selected_message :
    SelectedMessage.ofText? "x->>y: hi".toList = some ⟨"x".toList, "y".toList, "hi".toList⟩ ∧
      ∃ plan, runAction .newArrow (.ofText "sequenceDiagram\n  x->>y: hi\n  y->>x: ok".toList) ⟨2, 1⟩
          "x->>y: hi".toList ⟨.sequence, indentUnit 2⟩ = .edit plan ∧
        Inserts plan (.ofText "sequenceDiagram\n  x->>y: hi\n  y->>x: ok".toList) 2 ["  A->>B: message".toList] ∧
        ¬IsInsertedMessage "  A->>B: message".toList "y".toList "x".toList := by
  have hread : SelectedMessage.ofText? "x->>y: hi".toList = some ⟨"x".toList, "y".toList, "hi".toList⟩ := by
    decide +kernel
  have hindent : Document.nearestIndentation (.ofText "sequenceDiagram\n  x->>y: hi\n  y->>x: ok".toList) 2
      (indentUnit 2) = "  ".toList := by
    decide +kernel
  have hinserts := newArrow_inserts (.ofText "sequenceDiagram\n  x->>y: hi\n  y->>x: ok".toList) 2
    "x->>y: hi".toList ⟨.sequence, indentUnit 2⟩
  refine ⟨hread, _, rfl, ?_, fun h => ?_⟩
  · rw [hindent] at hinserts
    exact hinserts
  · have hmessage : Message.ofText? (trim "  A->>B: message".toList) =
        some ⟨"A".toList, "->>".toList, "B".toList, "message".toList⟩ := by
      decide +kernel
    obtain ⟨body, hbody⟩ := h.read
    have hsource : "A".toList = "y".toList := congrArg Message.source (Option.some.inj (hmessage.symm.trans hbody))
    exact absurd hsource (by decide)

end Actions

end DiagramText
