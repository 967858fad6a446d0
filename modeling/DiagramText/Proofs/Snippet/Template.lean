import DiagramText.Proofs.FreshNode
import DiagramText.Proofs.Shape
import DiagramText.Snippet

/-!
# Templates read again

A template can be read without the snippet that it was made of.

- A `$` without a backslash before it starts a stop, a mirror or the final place, and a text ends there
  (`unescape_escape_append`).
- One segment is read whatever stands behind it, except that no text may stand behind a text (`segmentAhead?_append`).
- So the segments are read one after the other (`segmentsOf?_toTemplate`), and no template is that of two snippets with
  different segments (`toTemplate_decodable`).
-/

namespace DiagramText

open Text

namespace Snippet

/-! ## Reading templates -/

/-- The text up to the first `$` or closing brace that has no backslash before it, without its backslashes, and what
stands from there on. -/
def unescape : Text → Text × Text
  | [] => ([], [])
  | '\\' :: c :: rest => (c :: (unescape rest).1, (unescape rest).2)
  | c :: rest => if c = '$' ∨ c = '\x7d' then ([], c :: rest) else (c :: (unescape rest).1, (unescape rest).2)

/-- The stop or the mirror that goes on behind its index, and what stands behind it. -/
def markedAhead? (index : Nat) : Text → Option (Segment × Text)
  | ':' :: rest => (after? ['\x7d'] (unescape rest).2).map (.stop index (unescape rest).1, ·)
  | '/' :: rest => [Transform.titleCase, .capitalizeFirst].findSome? fun transform =>
      (after? (transform.rule.toList ++ ['\x7d']) rest).map (.mirror index transform, ·)
  | _ => none

/-- The text that a template starts with, and what stands behind it. -/
def textAhead? (template : Text) : Option (Segment × Text) :=
  if (unescape template).1 = [] then none else some (.text (unescape template).1, (unescape template).2)

/-- The segment that a template starts with, and what stands behind it. -/
def segmentAhead? : Text → Option (Segment × Text)
  | '$' :: '0' :: rest => some (.final, rest)
  | '$' :: '\x7b' :: rest =>
    (digitsValue? (rest.takeWhile Char.isDigit)).bind fun index => markedAhead? index (rest.dropWhile Char.isDigit)
  | template => textAhead? template

/-- The segments of a template that has `n` of them at most. -/
def segmentsWithin? : Nat → Text → Option (List Segment)
  | _, [] => some []
  | 0, _ :: _ => none
  | n + 1, c :: rest =>
    (segmentAhead? (c :: rest)).bind fun (segment, behind) => (segmentsWithin? n behind).map (segment :: ·)

/-- The segments of a template. Each of them takes up a character at least. -/
def segmentsOf? (template : Text) : Option (List Segment) :=
  segmentsWithin? template.length template

variable {c : Char} {text rest template : Text} {segment : Segment} {segments : List Segment}

/-! ## Texts -/

section Texts

theorem unescape_cons (h : c ≠ '\\') (rest : Text) : unescape (c :: rest) =
    if c = '$' ∨ c = '\x7d' then ([], c :: rest) else (c :: (unescape rest).1, (unescape rest).2) := by
  rw [unescape.eq_def]
  split
  · next he => cases he
  · next he => exact absurd (List.cons.inj he).1 h
  · next he => rw [(List.cons.inj he).1, (List.cons.inj he).2]

theorem escape_cons (c : Char) (text : Text) :
    escape (c :: text) = (if c = '$' ∨ c = '\x7d' ∨ c = '\\' then ['\\', c] else [c]) ++ escape text :=
  List.flatMap_cons

/-- A text with backslashes is read up to a `$` or a closing brace behind it. -/
theorem unescape_escape_append (text : Text) (h : ∀ c, rest.head? = some c → c = '$' ∨ c = '\x7d') :
    unescape (escape text ++ rest) = (text, rest) := by
  induction text with
  | nil =>
    cases rest with
    | nil => rfl
    | cons c rest =>
      have hc := h c rfl
      have hne : c ≠ '\\' := by rcases hc with rfl | rfl <;> decide
      exact (unescape_cons hne rest).trans (if_pos hc)
  | cons c text ih =>
    rw [escape_cons]
    by_cases hc : c = '$' ∨ c = '\x7d' ∨ c = '\\'
    · rw [if_pos hc]
      simp only [List.cons_append, List.nil_append, unescape, ih]
    · have hne : c ≠ '\\' := fun he => hc (Or.inr (Or.inr he))
      have hplain : ¬(c = '$' ∨ c = '\x7d') := fun he => hc (he.imp_right Or.inl)
      rw [if_neg hc, List.singleton_append, List.cons_append, unescape_cons hne, if_neg hplain, ih]

/-- No text is written with a `$` at its start. -/
theorem head_escape_append (h : text ≠ []) (rest : Text) : (escape text ++ rest).head? ≠ some '$' := by
  obtain ⟨c, text, rfl⟩ := List.exists_cons_of_ne_nil h
  rw [escape_cons]
  split
  · simp
  · next hc =>
    intro hhead
    exact hc (Or.inl (Option.some.inj hhead))

end Texts

/-! ## One segment -/

section OneSegment

theorem segmentAhead?_of_head (h : template.head? ≠ some '$') : segmentAhead? template = textAhead? template := by
  unfold segmentAhead?
  split
  · exact absurd rfl h
  · exact absurd rfl h
  · rfl

/-- Only a text does not start with `$`. -/
theorem head_segmentTemplate (h : segment.isText = false) : (segmentTemplate segment).head? = some '$' := by
  cases segment with
  | text t => cases h
  | _ => rfl

theorem segmentTemplate_ne_nil (h : segment ≠ .text []) : segmentTemplate segment ≠ [] := by
  cases segment with
  | text t =>
    have ht : t ≠ [] := fun he => h (congrArg Segment.text he)
    obtain ⟨c, t, rfl⟩ := List.exists_cons_of_ne_nil ht
    rw [segmentTemplate, escape_cons]
    split <;> exact List.cons_ne_nil _ _
  | _ => exact List.cons_ne_nil _ _

/-- An index is read up to the character behind it. -/
theorem segmentAhead?_index (index : Nat) (hc : c.isDigit = false) (rest : Text) :
    segmentAhead? ('$' :: '\x7b' :: ofNat index ++ c :: rest) = markedAhead? index (c :: rest) := by
  have hdigits := (digitsValue?_eq_some_iff.mp (digitsValue?_ofNat index)).2.1
  rw [List.cons_append, List.cons_append, segmentAhead?, takeWhile_append_cons hdigits hc,
    dropWhile_append_cons hdigits hc, digitsValue?_ofNat, Option.bind_some]

/-- What stands behind the index of a mirror tells its transform. -/
theorem markedAhead?_rule (index : Nat) (transform : Transform) (rest : Text) :
    markedAhead? index ('/' :: (transform.rule.toList ++ ['\x7d'] ++ rest)) = some (.mirror index transform, rest) := by
  have hown : after? (transform.rule.toList ++ ['\x7d']) (transform.rule.toList ++ ['\x7d'] ++ rest) = some rest :=
    after?_eq_some_iff.mpr rfl
  cases transform with
  | titleCase => rw [markedAhead?, List.findSome?_cons, hown, Option.map_some]
  | capitalizeFirst =>
    have hother : after? (Transform.titleCase.rule.toList ++ ['\x7d'])
        (Transform.capitalizeFirst.rule.toList ++ ['\x7d'] ++ rest) = none := rfl
    rw [markedAhead?, List.findSome?_cons, hother, Option.map_none]
    dsimp only
    rw [List.findSome?_cons, hown, Option.map_some]

/-- **One segment.** A segment is read whatever stands behind it; behind a text stands a `$` or nothing. -/
theorem segmentAhead?_append (hne : segment ≠ .text [])
    (hrest : segment.isText = true → ∀ c, rest.head? = some c → c = '$') :
    segmentAhead? (segmentTemplate segment ++ rest) = some (segment, rest) := by
  cases segment with
  | text t =>
    have ht : t ≠ [] := fun he => hne (congrArg Segment.text he)
    rw [segmentTemplate, segmentAhead?_of_head (head_escape_append ht rest), textAhead?,
      unescape_escape_append t fun c hc => Or.inl (hrest rfl c hc), if_neg ht]
  | stop index default =>
    have hsplit : segmentTemplate (.stop index default) ++ rest =
        '$' :: '\x7b' :: ofNat index ++ ':' :: (escape default ++ '\x7d' :: rest) := by
      simp [segmentTemplate]
    have hclosed : unescape (escape default ++ '\x7d' :: rest) = (default, '\x7d' :: rest) := by
      refine unescape_escape_append default fun c hc => ?_
      cases hc
      exact Or.inr rfl
    rw [hsplit, segmentAhead?_index index (by decide), markedAhead?, hclosed]
    rfl
  | mirror index transform =>
    have hsplit : segmentTemplate (.mirror index transform) ++ rest =
        '$' :: '\x7b' :: ofNat index ++ '/' :: (transform.rule.toList ++ ['\x7d'] ++ rest) := by
      simp [segmentTemplate]
    rw [hsplit, segmentAhead?_index index (by decide), markedAhead?_rule]
  | final => rfl

end OneSegment

/-! ## All segments -/

section AllSegments

/-- Behind a text, no segment or one that starts with `$` is written. -/
theorem head_flatMap_segmentTemplate (h : startsWithText segments = false) :
    ∀ c, (segments.flatMap segmentTemplate).head? = some c → c = '$' := by
  intro c hc
  cases segments with
  | nil => cases hc
  | cons segment segments =>
    rw [List.flatMap_cons, List.head?_append, head_segmentTemplate h] at hc
    exact (Option.some.inj hc).symm

theorem normalSegments_cons_iff : normalSegments (segment :: segments) = true ↔
    segment ≠ .text [] ∧ (segment.isText = true → startsWithText segments = false) ∧
      normalSegments segments = true := by
  rw [normalSegments, Bool.and_eq_true, Bool.and_eq_true, decide_eq_true_iff, Bool.not_eq_true', and_assoc,
    Bool.and_eq_false_imp]

/-- Segments without an empty text and without neighbouring texts are read one after the other. -/
theorem segmentsWithin?_flatMap {n : Nat} (h : normalSegments segments = true)
    (hn : (segments.flatMap segmentTemplate).length ≤ n) :
    segmentsWithin? n (segments.flatMap segmentTemplate) = some segments := by
  induction segments generalizing n with
  | nil => cases n <;> rfl
  | cons segment segments ih =>
    obtain ⟨hne, hnext, hnormal⟩ := normalSegments_cons_iff.mp h
    have hread := segmentAhead?_append hne fun htext => head_flatMap_segmentTemplate (hnext htext)
    obtain ⟨c, written, hwritten⟩ := List.exists_cons_of_ne_nil (segmentTemplate_ne_nil hne)
    rw [List.flatMap_cons] at hn ⊢
    rw [hwritten] at hn hread ⊢
    rw [List.length_append, List.length_cons] at hn
    obtain ⟨n, rfl⟩ := Nat.exists_eq_add_of_le' (show 1 ≤ n by omega)
    have hbehind : segmentsWithin? n (segments.flatMap segmentTemplate) = some segments := ih hnormal (by omega)
    rw [List.cons_append] at hread ⊢
    simp only [segmentsWithin?, hread, Option.bind_some, hbehind, Option.map_some]

theorem segmentsOf?_toTemplate (s : Snippet) : segmentsOf? s.toTemplate = some s.segments :=
  segmentsWithin?_flatMap s.normal (Nat.le_refl _)

/-- **Templates are uniquely decodable.** The segments of a snippet are read from its template, and two snippets with
the same template have the same segments. -/
theorem toTemplate_decodable (s s' : Snippet) : segmentsOf? s.toTemplate = some s.segments ∧
    (s.toTemplate = s'.toTemplate ↔ s.segments = s'.segments) := by
  refine ⟨segmentsOf?_toTemplate s, fun h => ?_, fun h => congrArg (List.flatMap segmentTemplate) h⟩
  have hread := congrArg segmentsOf? h
  rw [segmentsOf?_toTemplate, segmentsOf?_toTemplate] at hread
  exact Option.some.inj hread

example : segmentsOf? "cost \\$5 \x7bx\\\x7d$\x7b1:a\\\x7db\x7d$0".toList =
    some [.text "cost $5 \x7bx\x7d".toList, .stop 1 "a\x7db".toList, .final] := by
  decide

end AllSegments

end Snippet

end DiagramText
