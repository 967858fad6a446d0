import Mathlib.Data.List.TakeWhile
import DiagramText.Proofs.Text.Mark
import DiagramText.Reply

/-!
# Replies

A selected message is read from one line: its ends are identifiers, and its body is tight or a single blank
(`ofText?_eq_some`). The reply to it holds no newline, and no blank at its start unless it holds only blanks
(`isMessageBody_requestReply`, `isMessageBody_actionReply`).
-/

namespace DiagramText

open Text

variable {text rest message : Text} {verbs : List String}

/-- What is selected as the body of a message: a tight text, or a single blank that is no newline. -/
def IsSelectedBody (text : Text) : Prop :=
  IsTight text ∨ ∃ c, text = [c] ∧ isBlank c = true ∧ c ≠ '\n'

/-- What is inserted as the body of a message: no newline, and no blank at its start unless it holds only blanks. -/
structure IsMessageBody (text : Text) : Prop where
  newline : '\n' ∉ text
  first : IsGap text ∨ ∃ c rest, text = c :: rest ∧ isBlank c = false

/-! ## Selected messages -/

section Selected

theorem isIdentifier_of_identifier? {name : Text} (h : identifier? text = some (name, rest)) :
    isIdentifier name = true := by
  cases text with
  | nil => cases h
  | cons c text =>
    rw [identifier?] at h
    split at h
    · next hc =>
      cases h
      exact isIdentifier_iff.mpr ⟨c, _, rfl, hc, List.all_eq_true.mp List.all_takeWhile⟩
    · cases h

theorem isSelectedBody_body? {body : Text} (h : SelectedMessage.body? text = some body) : IsSelectedBody body := by
  unfold SelectedMessage.body? at h
  split at h
  · next hgap =>
    obtain ⟨c, hc, rfl⟩ := Option.map_eq_some_iff.mp h
    have hne := List.find?_some hc
    rw [decide_eq_true_eq] at hne
    exact Or.inr ⟨c, rfl, trim_eq_nil_iff.mp hgap c (List.mem_reverse.mp (List.mem_of_find?_eq_some hc)), hne⟩
  · next body' hfilled =>
    split at h
    · cases h
    · next hn =>
      cases h
      exact Or.inl ⟨⟨hn, last_trimEnd _⟩, (trim_eq_nil_or_cons text).resolve_left hfilled⟩

/-- The parts of a selected message. -/
theorem SelectedMessage.ofText?_eq_some {m : SelectedMessage} (h : SelectedMessage.ofText? text = some m) :
    isIdentifier m.source = true ∧ isIdentifier m.target = true ∧ IsSelectedBody m.body := by
  unfold SelectedMessage.ofText? at h
  simp only [Option.bind_eq_bind, Option.bind_eq_some_iff] at h
  obtain ⟨⟨source, _⟩, hsource, _, _, ⟨target, _⟩, htarget, _, _, body, hbody, hm⟩ := h
  cases hm
  exact ⟨isIdentifier_of_identifier? hsource, isIdentifier_of_identifier? htarget, isSelectedBody_body? hbody⟩

/-- An identifier alone is no message. -/
theorem SelectedMessage.ofText?_of_isIdentifier (h : isIdentifier text = true) :
    SelectedMessage.ofText? text = none := by
  have hread : identifier? (trimStart text) = some (text, []) := by
    obtain ⟨c, rest, rfl, hc, hrest⟩ := isIdentifier_iff.mp h
    rw [(isTight_of_isIdentifier h).trimStart_eq, identifier?, if_pos hc, List.takeWhile_eq_self_iff.mpr hrest,
      List.dropWhile_eq_nil_iff.mpr hrest]
  have harrow : SelectedMessage.afterArrow? (trimStart []) = none := by decide
  simp only [SelectedMessage.ofText?, hread, Option.bind_eq_bind, Option.bind_some, harrow, Option.bind_none]

end Selected

/-! ## Replies -/

section Replies

/-- A single character is no verb with something behind it. -/
theorem behindVerb?_singleton (hverbs : ∀ verb ∈ verbs, 1 < verb.toList.length) (c : Char) :
    behindVerb? verbs [c] = none := by
  refine List.findSome?_eq_none_iff.mpr fun verb hverb => Option.bind_eq_none_iff.mpr fun behind hafter => ?_
  obtain ⟨read, hread, hmap⟩ := afterKeyword?_eq_some_iff.mp hafter
  have hlength := hverbs verb hverb
  rw [← hmap, List.length_map] at hlength
  have htext := congrArg List.length hread
  rw [List.length_singleton, List.length_append] at htext
  omega

/-- What stands behind a verb in a selected message is tight. -/
theorem isTight_behindVerb? (h : IsSelectedBody message) (hverbs : ∀ verb ∈ verbs, 1 < verb.toList.length)
    (hb : behindVerb? verbs message = some rest) : IsTight rest := by
  rcases h with h | ⟨c, rfl, -⟩
  · obtain ⟨verb, -, hverb⟩ := List.exists_of_findSome?_eq_some hb
    obtain ⟨behind, hafter, hrest⟩ := Option.bind_eq_some_iff.mp hverb
    obtain ⟨read, rfl, -⟩ := afterKeyword?_eq_some_iff.mp hafter
    exact (spacedRemainder?_eq_append h.toIsTail.of_append hrest).1
  · rw [behindVerb?_singleton hverbs] at hb
    cases hb

/-- A capital is no blank where its letter is none. -/
theorem first_capitalize (h : ∃ c rest, text = c :: rest ∧ isBlank c = false) :
    ∃ c rest, capitalize text = c :: rest ∧ isBlank c = false := by
  obtain ⟨c, rest, rfl, hc⟩ := h
  obtain ⟨d, capital, hupper⟩ := List.exists_cons_of_ne_nil (upper_ne_nil c)
  refine ⟨d, capital ++ rest, by rw [capitalize, hupper]; rfl, ?_⟩
  rw [isBlank_of_mem_upper (by rw [hupper]; exact List.mem_cons_self), hc]

theorem isMessageBody_capitalize (h : IsMessageBody text) : IsMessageBody (capitalize text) := by
  refine ⟨not_mem_capitalize isMark_newline h.newline, ?_⟩
  rcases h.first with hgap | hfirst
  · left
    cases text with
    | nil => exact hgap
    | cons c rest =>
      rw [capitalize, isGap_append]
      refine ⟨fun d hd => ?_, fun d hd => hgap d (List.mem_cons_of_mem c hd)⟩
      rw [isBlank_of_mem_upper hd]
      exact hgap c List.mem_cons_self
  · exact Or.inr (first_capitalize hfirst)

theorem IsTight.isMessageBody (h : IsTight text) : IsMessageBody text :=
  ⟨h.newline, Or.inr h.first⟩

/-- The body of a selected message can be inserted again. -/
theorem IsSelectedBody.isMessageBody (h : IsSelectedBody message) : IsMessageBody message := by
  rcases h with h | ⟨c, rfl, hc, hn⟩
  · exact h.isMessageBody
  · refine ⟨fun hmem => hn (List.mem_singleton.mp hmem).symm, Or.inl fun d hd => ?_⟩
    rw [List.mem_singleton.mp hd]
    exact hc

theorem isMessageBody_requestReply (h : IsSelectedBody message) : IsMessageBody (requestReply message) := by
  refine isMessageBody_capitalize ?_
  cases hb : behindVerb? requestVerbs message with
  | none => exact h.isMessageBody
  | some rest => exact (isTight_behindVerb? h (by decide) hb).isMessageBody

theorem isMessageBody_actionReply (h : IsSelectedBody message) : IsMessageBody (actionReply message) := by
  unfold actionReply
  split
  · next object hb =>
    have hobject := isTight_behindVerb? h (by decide) hb
    obtain ⟨c, capital, hcapital, hc⟩ := first_capitalize hobject.first
    refine ⟨?_, Or.inr ⟨c, capital ++ " done".toList, by rw [hcapital]; rfl, hc⟩⟩
    rw [List.mem_append, not_or]
    exact ⟨not_mem_capitalize isMark_newline hobject.newline, by decide⟩
  · exact ⟨by decide, Or.inr ⟨'R', "esult".toList, rfl, by decide⟩⟩

end Replies

end DiagramText
