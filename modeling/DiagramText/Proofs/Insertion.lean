import DiagramText.Proofs.Anchor
import DiagramText.Proofs.Reply
import DiagramText.Proofs.Snippet

/-!
# Inserted lines

A plan that inserts lines below a line replaces nothing (`Inserts`), so that the document after it has all its lines
and the inserted ones between them (`Inserts.applyTo?_eq`). For each action that inserts, one lemma says which lines:
`newElement_inserts`, `newArrow_inserts`, `messagePair?_inserts` and `duplicateLine_inserts`.
-/

namespace DiagramText

open Text

/-- A plan inserts lines below line `n`. -/
structure Inserts (plan : EditPlan) (d : Document) (n : Nat) (inserted : List Text) : Prop where
  range : plan.range = .endOfLine d n
  text : plan.text = inserted.flatMap ('\n' :: ·) ++ if n = d.lineCount then ['\n'] else []

/-- The identifier that a new line is about: the selected one, or else a given name. -/
def nameOr (selection default : Text) : Text :=
  if isIdentifier selection then selection else default

variable {d : Document} {plan : EditPlan} {n : Nat} {inserted : List Text}

/-! ## Plans that insert -/

section Plans

/-- The document after an insertion: the inserted lines stand between the old ones, and an empty line behind them where
they are the last. -/
theorem Inserts.applyTo?_eq (h : Inserts plan d n inserted) (hfirst : 1 ≤ n) (hlast : n ≤ d.lineCount) :
    plan.applyTo? d = some (unlines (d.lines.take n ++ inserted ++ d.lines.drop n ++
      if n = d.lineCount then [[]] else [])) := by
  rw [EditPlan.applyTo?, h.range, replace?_endOfLine hfirst hlast, h.text, unlines_insert hfirst hlast]
  split
  · next hn => rw [hn, below_lineCount, List.append_nil, List.nil_append]; rfl
  · simp

/-- An insertion changes the document. -/
theorem Inserts.ne_value (h : Inserts plan d n inserted) (hne : inserted ≠ []) (hfirst : 1 ≤ n)
    (hlast : n ≤ d.lineCount) : plan.applyTo? d ≠ some d.value := by
  rw [EditPlan.applyTo?, h.range, replace?_endOfLine hfirst hlast, value_eq hfirst hlast]
  intro he
  have hlen := congrArg List.length (Option.some.inj he)
  obtain ⟨line, rest, rfl⟩ := List.exists_cons_of_ne_nil hne
  simp only [h.text, List.flatMap_cons, List.length_append, List.length_cons] at hlen
  omega

theorem insertBelow_inserts {action : Action} {indent : Text} {content : Snippet → Snippet}
    (h : (content (.plain ('\n' :: indent))).toText = inserted.flatMap ('\n' :: ·)) :
    Inserts (insertBelow d action n indent content) d n inserted := by
  refine ⟨rfl, ?_⟩
  show (if n = d.lineCount then (content (.plain ('\n' :: indent))).text ['\n']
    else content (.plain ('\n' :: indent))).toText = _
  rw [← h]
  split
  · exact Snippet.toText_text _ _
  · exact (List.append_nil _).symm

end Plans

/-! ## The lines of each action -/

/-- The line that declares a participant, without its indentation. -/
def participantText (name : Text) : Text :=
  "participant ".toList ++ name ++ " as ".toList ++ titleCase name

/-- The line that declares a node, without its indentation. -/
def nodeText (name : Text) : Text :=
  name ++ '(' :: titleCase name ++ [')']

/-- The line that declares a new participant or node, without its indentation. -/
def elementText : Dialect → Text → Text
  | .sequence => participantText
  | .flowchart => nodeText

/-- The name of a new participant or node. -/
def elementName (d : Document) (selection : Text) : Dialect → Text
  | .sequence => nameOr selection "new_participant".toList
  | .flowchart => nameOr selection (freshNode d.value)

/-- The line of an edge or a message, without its indentation. -/
def arrowText (source : Text) : Dialect → Text
  | .sequence => source ++ "->>B: message".toList
  | .flowchart => source ++ " --> B".toList

/-- The lines of a message and its reply, without their indentation. -/
def PairKind.texts (source : Text) : PairKind → List Text
  | request => [source ++ "->>B: Get entity".toList, "B->>".toList ++ source ++ ": Entity".toList]
  | action => [source ++ "->>B: Perform".toList, "B->>".toList ++ source ++ ": Success".toList]

/-- The lines of a pair of messages, or of the reply to a selected message, without their indentation. -/
def pairTexts (kind : PairKind) (selection : Text) : List Text :=
  match SelectedMessage.ofText? selection with
  | some m => [m.target ++ "->>".toList ++ m.source ++ ": ".toList ++ kind.reply m.body]
  | none => kind.texts (nameOr selection "A".toList)

section Actions

variable {selection : Text} {context : EditContext} {kind : PairKind}

theorem newElement_inserts (d : Document) (n : Nat) (selection : Text) (context : EditContext) :
    Inserts (newElement d n selection context) d (elementAnchor d n context).line
      [(elementAnchor d n context).indent ++
        elementText context.dialect (elementName d selection context.dialect)] := by
  obtain ⟨dialect, unit⟩ := context
  cases dialect with
  | sequence =>
    unfold newElement newParticipant
    apply insertBelow_inserts
    unfold elementText elementName elementAnchor participantText
    generalize "new_participant".toList = name
    cases hs : isIdentifier selection <;>
      simp [hs, Snippet.toText_eq_textWith, nameOr, Transform.apply]
  | flowchart =>
    unfold newElement newNode
    apply insertBelow_inserts
    cases hs : isIdentifier selection <;>
      simp [hs, Snippet.toText_eq_textWith, elementText, nodeText, elementName, nameOr, elementAnchor, Transform.apply]

theorem newArrow_inserts (d : Document) (n : Nat) (selection : Text) (context : EditContext) :
    Inserts (newArrow d n selection context) d n
      [d.nearestIndentation n context.indentUnit ++ arrowText (nameOr selection "A".toList) context.dialect] := by
  obtain ⟨dialect, unit⟩ := context
  unfold newArrow
  apply insertBelow_inserts
  cases hs : isIdentifier selection <;> cases dialect <;>
    simp [hs, Snippet.toText_eq_textWith, addSource, arrowText, nameOr]

theorem messagePair?_inserts (h : messagePair? kind d n selection context = some plan) :
    Inserts plan d n ((pairTexts kind selection).map (d.nearestIndentation n context.indentUnit ++ ·)) := by
  obtain ⟨dialect, unit⟩ := context
  cases dialect with
  | flowchart => cases h
  | sequence =>
    cases h
    refine insertBelow_inserts ?_
    unfold pairTexts
    cases hm : SelectedMessage.ofText? selection with
    | some m => simp [Snippet.toText_eq_textWith]
    | none =>
      cases hs : isIdentifier selection <;> cases kind <;>
        simp [hs, Snippet.toText_eq_textWith, addPair, addSource, PairKind.addBody, PairKind.addReply, PairKind.texts,
          nameOr, firstFreeStop, Transform.apply] <;> decide

theorem duplicateLine_inserts (d : Document) (n : Nat) : Inserts (duplicateLine d n) d n [d.line n] := by
  refine ⟨rfl, ?_⟩
  simp [duplicateLine, EditPlan.text, Snippet.toText_eq_textWith]

end Actions

/-! ## Names -/

section Names

variable {selection name : Text} {dialect : Dialect} {kind : PairKind}

theorem isIdentifier_nameOr {default : Text} (h : isIdentifier default = true) :
    isIdentifier (nameOr selection default) = true := by
  unfold nameOr
  split
  · next hs => exact hs
  · exact h

theorem isIdentifier_freshNode (text : Text) : isIdentifier (freshNode text) = true := by
  refine isIdentifier_append (by decide) fun c hc => ?_
  have hdigit := Nat.isDigit_of_mem_toDigits (by decide) (by decide) hc
  have hpart : c.isAlphanum = true := (Bool.or_eq_true _ _).mpr (Or.inr hdigit)
  rw [isIdentifierPart, hpart, Bool.true_or]

/-- What is inserted is named by an identifier. -/
theorem isIdentifier_elementName (d : Document) (selection : Text) (dialect : Dialect) :
    isIdentifier (elementName d selection dialect) = true := by
  cases dialect with
  | sequence => exact isIdentifier_nameOr (by decide)
  | flowchart => exact isIdentifier_nameOr (isIdentifier_freshNode d.value)

theorem newline_not_mem_elementText (h : isIdentifier name = true) : '\n' ∉ elementText dialect name := by
  have hname : '\n' ∉ name := not_mem_of_isIdentifier h isMark_newline.part
  have htitle := not_mem_titleCase isMark_newline hname
  cases dialect with
  | sequence =>
    unfold elementText participantText
    rw [List.mem_append, List.mem_append, List.mem_append, not_or, not_or, not_or]
    exact ⟨⟨⟨by decide, hname⟩, by decide⟩, htitle⟩
  | flowchart => simp [elementText, nodeText, hname, htitle]

theorem newline_not_mem_arrowText (h : isIdentifier name = true) : '\n' ∉ arrowText name dialect := by
  have hname : '\n' ∉ name := not_mem_of_isIdentifier h isMark_newline.part
  cases dialect <;> simp [arrowText, hname]

/-- The reply to a selected message can be inserted. -/
theorem isMessageBody_reply (kind : PairKind) {message : Text} (h : IsSelectedBody message) :
    IsMessageBody (kind.reply message) := by
  cases kind with
  | request => exact isMessageBody_requestReply h
  | action => exact isMessageBody_actionReply h

theorem newline_not_mem_pairTexts : ∀ line ∈ pairTexts kind selection, '\n' ∉ line := by
  unfold pairTexts
  cases hm : SelectedMessage.ofText? selection with
  | some m =>
    obtain ⟨hsource, htarget, hbody⟩ := SelectedMessage.ofText?_eq_some hm
    have hsource : '\n' ∉ m.source := not_mem_of_isIdentifier hsource isMark_newline.part
    have htarget : '\n' ∉ m.target := not_mem_of_isIdentifier htarget isMark_newline.part
    have hreply : '\n' ∉ kind.reply m.body := (isMessageBody_reply kind hbody).newline
    simp [hsource, htarget, hreply]
  | none =>
    have hname : isIdentifier (nameOr selection "A".toList) = true := isIdentifier_nameOr (by decide)
    have hname : '\n' ∉ nameOr selection "A".toList := not_mem_of_isIdentifier hname isMark_newline.part
    generalize nameOr selection "A".toList = name at hname
    cases kind <;> simp [PairKind.texts, hname]

/-- A pair of messages has two lines, and the reply to a selected message one. -/
theorem length_pairTexts (kind : PairKind) (selection : Text) : (pairTexts kind selection).length =
    if (SelectedMessage.ofText? selection).isNone then 2 else 1 := by
  unfold pairTexts
  cases SelectedMessage.ofText? selection with
  | some m => rfl
  | none => cases kind <;> rfl

end Names

end DiagramText
