import DiagramText.Proofs.Insertion
import DiagramText.Session

/-!
# Edits

Every edit that an action comes to can be carried out, and changes the document (`runAction_edit`). An insertion touches
no line that is there: the document after it has the old lines in their order, with the new ones below the line that
`insertionLine?` names.
-/

namespace DiagramText

open Text

/-- The line below which an action inserts, if it inserts lines. -/
def insertionLine? (action : Action) (d : Document) (n : Nat) (context : EditContext) : Option Nat :=
  match action with
  | .newElement => some (elementAnchor d n context).line
  | .newArrow | .requestResponse | .actionResponse | .duplicateLine => some n
  | _ => none

/-- The number of lines that an action inserts: two for a message and its reply, and one otherwise. -/
def insertionCount (action : Action) (selection : Text) : Nat :=
  match action with
  | .requestResponse | .actionResponse => if (SelectedMessage.ofText? selection).isNone then 2 else 1
  | _ => 1

/-- Inserted lines hold no newlines, as long as no line of the document and no unit of indentation does. -/
def FreeOfNewlines (d : Document) (unit : Text) (inserted : List Text) : Prop :=
  (∀ line ∈ d.lines, '\n' ∉ line) → '\n' ∉ unit → ∀ line ∈ inserted, '\n' ∉ line

variable {d : Document} {action : Action} {plan : EditPlan} {cursor : Position} {selection : Text}
  {context : EditContext} {a n : Nat}

section Insertions

theorem ofPlan?_eq_edit {plan? : Option EditPlan} (h : Outcome.ofPlan? plan? = .edit plan) : plan? = some plan := by
  cases plan? with
  | none => cases h
  | some p =>
    cases h
    rfl

theorem newline_not_mem_indentation {line : Text} (h : '\n' ∉ line) : '\n' ∉ indentation line :=
  fun hmem => h ((List.takeWhile_sublist _).subset hmem)

theorem freeOfNewlines_newElement (d : Document) (n : Nat) (selection : Text) (context : EditContext) :
    FreeOfNewlines d context.indentUnit [(elementAnchor d n context).indent ++
      elementText context.dialect (elementName d selection context.dialect)] := by
  intro hd hunit line hl
  have hindent : ∀ c ∈ (elementAnchor d n context).indent, c ≠ '\n' :=
    (standsIn_elementAnchor d n context).forall_mem
      (fun k c hc he => newline_not_mem_indentation (newline_not_mem_line hd k) (he ▸ hc))
      fun c hc he => hunit (he ▸ hc)
  rw [List.mem_singleton.mp hl, List.mem_append, not_or]
  exact ⟨fun hmem => hindent _ hmem rfl, newline_not_mem_elementText (isIdentifier_elementName d selection _)⟩

/-- Lines behind the nearest indentation. -/
theorem freeOfNewlines_nearest {texts : List Text} (h : ∀ line ∈ texts, '\n' ∉ line) (d : Document) (n : Nat)
    (unit : Text) : FreeOfNewlines d unit (texts.map (d.nearestIndentation n unit ++ ·)) := by
  intro hd hunit line hl
  obtain ⟨text, ht, rfl⟩ := List.mem_map.mp hl
  rw [List.mem_append, not_or]
  refine ⟨?_, h text ht⟩
  rcases nearestIndentation_eq_or d n unit with he | ⟨line, hline, he⟩
  · rw [he]
    exact hunit
  · rw [he]
    exact newline_not_mem_indentation (hd line hline)

theorem freeOfNewlines_newArrow (d : Document) (n : Nat) (selection : Text) (context : EditContext) :
    FreeOfNewlines d context.indentUnit
      [d.nearestIndentation n context.indentUnit ++ arrowText (nameOr selection "A".toList) context.dialect] := by
  have hline : ∀ line ∈ [arrowText (nameOr selection "A".toList) context.dialect], '\n' ∉ line := by
    intro line hl
    rw [List.mem_singleton.mp hl]
    exact newline_not_mem_arrowText (isIdentifier_nameOr (by decide))
  exact freeOfNewlines_nearest hline d n context.indentUnit

/-- What a pair of messages inserts. -/
theorem messagePair?_inserted {kind : PairKind} (h : messagePair? kind d n selection context = some plan) :
    ∃ inserted, Inserts plan d n inserted ∧
      inserted.length = (if (SelectedMessage.ofText? selection).isNone then 2 else 1) ∧
      FreeOfNewlines d context.indentUnit inserted := by
  refine ⟨_, messagePair?_inserts h, ?_, ?_⟩
  · rw [List.length_map]
    exact length_pairTexts kind selection
  · exact freeOfNewlines_nearest newline_not_mem_pairTexts d n context.indentUnit

/-- What an action inserts. -/
theorem runAction_inserts (h : runAction action d cursor selection context = .edit plan)
    (ha : insertionLine? action d cursor.line context = some a) : ∃ inserted, Inserts plan d a inserted ∧
      inserted.length = insertionCount action selection ∧ FreeOfNewlines d context.indentUnit inserted ∧
      (action = .duplicateLine → inserted = [d.line a]) := by
  unfold runAction at h
  split at h
  · cases action with
    | newElement =>
      cases h
      cases ha
      exact ⟨_, newElement_inserts d cursor.line selection context, rfl,
        freeOfNewlines_newElement d _ selection context, fun he => by cases he⟩
    | newArrow =>
      cases h
      cases ha
      exact ⟨_, newArrow_inserts d cursor.line selection context, rfl,
        freeOfNewlines_newArrow d cursor.line selection context, fun he => by cases he⟩
    | requestResponse | actionResponse =>
      cases ha
      obtain ⟨inserted, hins, hcount, hfree⟩ := messagePair?_inserted (ofPlan?_eq_edit h)
      exact ⟨inserted, hins, hcount, hfree, fun he => by cases he⟩
    | duplicateLine =>
      cases h
      cases ha
      refine ⟨_, duplicateLine_inserts d cursor.line, rfl, fun hd _ line hl => ?_, fun _ => rfl⟩
      rw [List.mem_singleton.mp hl]
      exact newline_not_mem_line hd cursor.line
    | _ => cases ha
  · cases h

theorem insertionLine?_bounds (hfirst : 1 ≤ n) (hlast : n ≤ d.lineCount)
    (ha : insertionLine? action d n context = some a) : 1 ≤ a ∧ a ≤ d.lineCount := by
  cases action with
  | newElement =>
    cases ha
    have ha := standsIn_elementAnchor d n context
    exact ⟨ha.first, by have := ha.last; omega⟩
  | newArrow | requestResponse | actionResponse | duplicateLine =>
    cases ha
    exact ⟨hfirst, hlast⟩
  | _ => cases ha

end Insertions

section Edits

theorem toText_plain (text : Text) : (Snippet.plain text).toText = text := by
  rw [Snippet.toText_eq_textWith, Snippet.textWith_plain]

theorem insertionCount_pos (action : Action) (selection : Text) : 0 < insertionCount action selection := by
  unfold insertionCount
  split
  · split <;> decide
  · split <;> decide
  · decide

/-- The edits that insert nothing: a line with its ends swapped, and a document in canonical form. -/
theorem runAction_replaces (h : runAction action d cursor selection context = .edit plan)
    (ha : insertionLine? action d cursor.line context = none) :
    swapLine? d cursor.line = some plan ∨ prettifyDocument? d context.indentUnit = some plan := by
  unfold runAction at h
  split at h
  · cases action with
    | swapArrow => exact Or.inl (ofPlan?_eq_edit h)
    | prettify => exact Or.inr (ofPlan?_eq_edit h)
    | nextDiagramType => cases h
    | previousDiagramType => cases h
    | _ => cases ha
  · cases h

theorem swapLine?_eq_some (h : swapLine? d n = some plan) (hfirst : 1 ≤ n) (hlast : n ≤ d.lineCount) :
    plan.range.LiesIn d ∧ ∃ text, plan.applyTo? d = some text ∧ text ≠ d.value := by
  unfold swapLine? at h
  extract_lets swapped at h
  split at h
  · cases h
  · next hne =>
    cases h
    refine ⟨wholeLine_liesIn hfirst hlast, _, replace?_wholeLine hfirst hlast, fun he => hne ?_⟩
    rw [value_eq hfirst hlast] at he
    rw [← List.append_cancel_right (List.append_cancel_left he)]
    exact (toText_plain swapped).symm

theorem prettifyDocument?_eq_some {unit : Text} (h : prettifyDocument? d unit = some plan) (hlines : 1 ≤ d.lineCount) :
    plan.range.LiesIn d ∧ ∃ text, plan.applyTo? d = some text ∧ text ≠ d.value := by
  unfold prettifyDocument? at h
  extract_lets pretty at h
  split at h
  · cases h
  · next hne =>
    cases h
    refine ⟨full_liesIn hlines, _, replace?_full hlines, ?_⟩
    rwa [EditPlan.text, toText_plain]

/-- **Edits can be carried out and change the document.** The range of an edit lies in the document, and with the text
of the edit in its place the document is another one. Where an action inserts lines below line `a`, the new document
has the old lines up to `a`, the new lines, and the old lines behind `a`, with an empty line at the end exactly where
`a` was the last line. There is one new line, or two where a message and its reply are inserted; they hold no newlines
where no old line and no unit of indentation does. The new line of a duplicated line is that line. -/
theorem runAction_edit (hfirst : 1 ≤ cursor.line) (hlast : cursor.line ≤ d.lineCount)
    (h : runAction action d cursor selection context = .edit plan) :
    plan.range.LiesIn d ∧ ∃ text, plan.applyTo? d = some text ∧ text ≠ d.value ∧
      ∀ a, insertionLine? action d cursor.line context = some a → 1 ≤ a ∧ a ≤ d.lineCount ∧ ∃ inserted,
        text = unlines (d.lines.take a ++ inserted ++ d.lines.drop a ++ if a = d.lineCount then [[]] else []) ∧
        inserted.length = insertionCount action selection ∧ FreeOfNewlines d context.indentUnit inserted ∧
        (action = .duplicateLine → inserted = [d.line a]) := by
  cases ha : insertionLine? action d cursor.line context with
  | some a =>
    obtain ⟨hfirst', hlast'⟩ := insertionLine?_bounds hfirst hlast ha
    obtain ⟨inserted, hins, hcount, hrest⟩ := runAction_inserts h ha
    have hne : inserted ≠ [] := by
      rintro rfl
      exact absurd hcount (Nat.ne_of_lt (insertionCount_pos action selection))
    refine ⟨by rw [hins.range]; exact endOfLine_liesIn hfirst' hlast', _, hins.applyTo?_eq hfirst' hlast', ?_, ?_⟩
    · intro he
      exact hins.ne_value hne hfirst' hlast' (by rw [hins.applyTo?_eq hfirst' hlast', he])
    · intro a' ha'
      rw [← Option.some.inj ha']
      exact ⟨hfirst', hlast', inserted, rfl, hcount, hrest⟩
  | none =>
    have hedit : plan.range.LiesIn d ∧ ∃ text, plan.applyTo? d = some text ∧ text ≠ d.value := by
      rcases runAction_replaces h ha with hswap | hpretty
      · exact swapLine?_eq_some hswap hfirst hlast
      · exact prettifyDocument?_eq_some hpretty (Nat.le_trans hfirst hlast)
    obtain ⟨hlies, text, happly, hne⟩ := hedit
    exact ⟨hlies, text, happly, hne, fun _ he => by cases he⟩

theorem new_arrow_below_last_line : ∃ inserted, inserted.length = 1 ∧
    (newArrow ⟨["flowchart LR".toList, "  a[Start]".toList]⟩ 2 "a".toList ⟨.flowchart, "  ".toList⟩).applyTo?
      ⟨["flowchart LR".toList, "  a[Start]".toList]⟩ =
        some (unlines (["flowchart LR".toList, "  a[Start]".toList] ++ inserted ++ [[]])) := by
  have h : runAction .newArrow ⟨["flowchart LR".toList, "  a[Start]".toList]⟩ ⟨2, 1⟩ "a".toList
      ⟨.flowchart, "  ".toList⟩ =
        .edit (newArrow ⟨["flowchart LR".toList, "  a[Start]".toList]⟩ 2 "a".toList ⟨.flowchart, "  ".toList⟩) := rfl
  obtain ⟨-, text, happly, -, hins⟩ := runAction_edit (by decide) (by decide) h
  obtain ⟨-, -, inserted, htext, hcount, -⟩ := hins 2 rfl
  refine ⟨inserted, hcount, ?_⟩
  rw [happly, htext, List.append_assoc _ inserted]
  exact congrArg (fun lines => some (unlines (_ ++ lines ++ [[]]))) (List.append_nil inserted)

end Edits

end DiagramText
