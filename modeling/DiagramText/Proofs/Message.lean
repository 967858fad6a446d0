import DiagramText.Message
import DiagramText.Proofs.Text.Keyword
import DiagramText.Proofs.Text.Run
import DiagramText.Proofs.Text.Word

/-!
# Messages with mended spaces

- A message is its source, an arrow, a target, a colon and a body, with gaps between them (`ofText?_eq_append`), so
  mending its spaces keeps all that is not blank (`plain_normalizeMessage`);
- a source is taken wherever an arrow, a target and a colon follow it (`arrowAndBody?_ne_none`). In the mended line the
  source may be shorter and the arrow another one, but not so that its colon comes earlier, since that source would
  have been taken in the first place: the text of the message stays the same (`normalizeMessage_normalizeMessage`).
-/

namespace DiagramText

open Text

variable {line text arrow target body rest : Text} {m : Message}

/-! ## Behind the source -/

section Behind

theorem letters_of_mem_messageArrows (h : arrow ∈ Message.arrows) :
    ∀ c ∈ arrow, isBlank c = false ∧ c ≠ ':' := by
  have hall : ∀ arrow ∈ Message.arrows, (arrow.all fun c => !isBlank c && c != ':') = true := by decide
  simpa using hall arrow h

theorem head_of_mem_messageArrows (h : arrow ∈ Message.arrows) : ∃ t, arrow = '-' :: t := by
  have hall : ∀ arrow ∈ Message.arrows, arrow.head? = some '-' := by decide
  exact List.head?_eq_some_iff.mp (hall arrow h)

theorem isNameCharacter_iff {c : Char} : Message.isNameCharacter c = true ↔ isBlank c = false ∧ c ≠ ':' := by
  simp [Message.isNameCharacter]

/-- A target, a colon and a body are read, whatever line follows the colon. -/
theorem targetAndBody?_append (hne : target ≠ []) (ht : ∀ c ∈ target, Message.isNameCharacter c = true)
    (hn : '\n' ∉ rest) : Message.targetAndBody? (target ++ ':' :: rest) = some (target, trim rest) := by
  obtain ⟨c, target', hc⟩ := List.exists_cons_of_ne_nil hne
  have hblank := (isNameCharacter_iff.mp (ht c (by rw [hc]; exact List.mem_cons_self))).1
  have hstart : trimStart (target ++ ':' :: rest) = target ++ ':' :: rest := by
    rw [hc]
    exact trimStart_cons_of_not_blank hblank _
  have hcolon : Message.isNameCharacter ':' = false := by decide
  have htake : (target ++ ':' :: rest).takeWhile Message.isNameCharacter = target := by
    rw [List.takeWhile_append_of_pos ht, List.takeWhile_cons, hcolon]
    simp
  have hdrop : (target ++ ':' :: rest).dropWhile Message.isNameCharacter = ':' :: rest := by
    rw [List.dropWhile_append_of_pos ht, List.dropWhile_cons, hcolon]
    simp
  have hn' : '\n' ∉ trimStart rest := fun h => by
    obtain ⟨gap, _, hr⟩ := exists_gap_trimStart rest
    exact hn (hr ▸ List.mem_append_right gap h)
  have hbehind : trimStart (':' :: rest) = ':' :: rest := trimStart_cons_of_not_blank (by decide) rest
  have htrim : trim (trimStart rest) = trim rest := by rw [trim, trim, trimStart_trimStart]
  simp only [Message.targetAndBody?, hstart, htake, hdrop, hbehind, hne, hn', or_self, if_false, htrim]

/-- An arrow, a target and a colon can be read, though perhaps not as the same arrow and target. -/
theorem arrowAndBody?_ne_none (ha : arrow ∈ Message.arrows) (hne : target ≠ [])
    (ht : ∀ c ∈ target, Message.isNameCharacter c = true) (hn : '\n' ∉ rest) :
    Message.arrowAndBody? (arrow ++ target ++ ':' :: rest) ≠ none := by
  obtain ⟨t, harrow⟩ := head_of_mem_messageArrows ha
  have hstart : trimStart (arrow ++ target ++ ':' :: rest) = arrow ++ (target ++ ':' :: rest) := by
    rw [harrow, List.append_assoc]
    exact trimStart_cons_of_not_blank (by decide) _
  intro h
  rw [Message.arrowAndBody?, hstart] at h
  have hnone := firstOf?_eq_none_iff.mp h arrow ha _ rfl
  rw [targetAndBody?_append hne ht hn] at hnone
  cases hnone

/-- A target, a colon and a body make up what they are read from, with gaps before the target and the colon. -/
theorem targetAndBody?_eq_append (h : Message.targetAndBody? text = some (target, body)) :
    target ≠ [] ∧ (∀ c ∈ target, Message.isNameCharacter c = true) ∧ ∃ g1 g2 rest, IsGap g1 ∧ IsGap g2 ∧
      text = g1 ++ target ++ g2 ++ ':' :: rest ∧ body = trim rest := by
  simp only [Message.targetAndBody?] at h
  split at h
  · next rest hcolon =>
    split at h
    · cases h
    · next hno =>
      cases h
      obtain ⟨g1, hg1, h1⟩ := exists_gap_trimStart text
      obtain ⟨g2, hg2, h2⟩ := exists_gap_trimStart ((trimStart text).dropWhile Message.isNameCharacter)
      refine ⟨fun hnil => hno (Or.inl hnil), fun c hc => ?_, g1, g2, rest, hg1, hg2, ?_, ?_⟩
      · exact List.all_eq_true.mp List.all_takeWhile c hc
      · rw [hcolon] at h2
        rw [List.append_assoc, List.append_assoc, ← h2, List.takeWhile_append_dropWhile]
        exact h1
      · rw [trim, trim, trimStart_trimStart]
  · cases h

/-- Arrow, target, colon and body make up what stands behind a source, with gaps before the first three. -/
theorem arrowAndBody?_eq_append (h : Message.arrowAndBody? text = some (arrow, target, body)) :
    arrow ∈ Message.arrows ∧ target ≠ [] ∧ (∀ c ∈ target, Message.isNameCharacter c = true) ∧
      ∃ g0 g1 g2 rest, IsGap g0 ∧ IsGap g1 ∧ IsGap g2 ∧
        text = g0 ++ arrow ++ g1 ++ target ++ g2 ++ ':' :: rest ∧ body = trim rest := by
  obtain ⟨ha, s, ht, hread⟩ := firstOf?_eq_append h
  obtain ⟨hne, hname, g1, g2, rest, hg1, hg2, hs, hbody⟩ := targetAndBody?_eq_append hread
  obtain ⟨g0, hg0, h0⟩ := exists_gap_trimStart text
  refine ⟨ha, hne, hname, g0, g1, g2, rest, hg0, hg1, hg2, ?_, hbody⟩
  rw [h0, ht, hs]
  simp

end Behind

/-! ## Messages -/

namespace Message

/-- A message without any blanks up to its colon. -/
def beforeColon (m : Message) : Text :=
  m.source ++ m.arrow ++ m.target

end Message

section Messages

/-- A message has the shortest source behind which an arrow, a target and a colon can be read. -/
theorem Message.ofText?_eq_some (h : Message.ofText? line = some m) : ∃ behind, line = m.source ++ behind ∧
    IsShortestRun (!isBlank ·) Message.arrowAndBody? m.source behind (m.arrow, m.target, m.body) := by
  obtain ⟨⟨source, arrow, target, body⟩, hread, he⟩ := Option.map_eq_some_iff.mp h
  obtain ⟨behind, ht, hshortest⟩ := shortestRun_eq_some_iff.mp hread
  subst he
  exact ⟨behind, ht, hshortest⟩

/-- The parts of a message make up its line, with gaps between them. -/
theorem Message.ofText?_eq_append (h : Message.ofText? line = some m) :
    m.arrow ∈ Message.arrows ∧ m.target ≠ [] ∧ (∀ c ∈ m.target, Message.isNameCharacter c = true) ∧
      ∃ g0 g1 g2 rest, IsGap g0 ∧ IsGap g1 ∧ IsGap g2 ∧
        line = m.source ++ (g0 ++ m.arrow ++ g1 ++ m.target ++ g2) ++ ':' :: rest ∧ m.body = trim rest := by
  obtain ⟨behind, ht, hshortest⟩ := Message.ofText?_eq_some h
  obtain ⟨ha, hne, hname, g0, g1, g2, rest, hg0, hg1, hg2, hb, hbody⟩ := arrowAndBody?_eq_append hshortest.eq_some
  refine ⟨ha, hne, hname, g0, g1, g2, rest, hg0, hg1, hg2, ?_, hbody⟩
  rw [ht, hb]
  simp

theorem not_blank_of_mem_source (h : Message.ofText? line = some m) : ∀ c ∈ m.source, isBlank c = false := by
  intro c hc
  obtain ⟨_, _, hshortest⟩ := Message.ofText?_eq_some h
  simpa using List.all_eq_true.mp hshortest.all c hc

theorem not_blank_of_mem_beforeColon (h : Message.ofText? line = some m) :
    ∀ c ∈ m.beforeColon, isBlank c = false := by
  intro c hc
  obtain ⟨ha, _, hname, _⟩ := Message.ofText?_eq_append h
  simp only [Message.beforeColon, List.mem_append] at hc
  rcases hc with (hc | hc) | hc
  · exact not_blank_of_mem_source h c hc
  · exact (letters_of_mem_messageArrows ha c hc).1
  · exact (isNameCharacter_iff.mp (hname c hc)).1

theorem Message.toText_eq (h : Message.ofText? line = some m) :
    m.toText = m.beforeColon ++ ':' :: spacedBody m.body := by
  obtain ⟨_, _, _, _, _, _, rest, _, _, _, _, hbody⟩ := Message.ofText?_eq_append h
  exact trimEnd_colon (fun c hc => last_trimEnd _ c (hbody ▸ hc)) m.beforeColon

/-- The mended line of a message is its source and what is read behind it. -/
theorem Message.toText_eq_append (h : Message.ofText? line = some m) :
    m.toText = m.source ++ (m.arrow ++ m.target ++ ':' :: spacedBody m.body) := by
  rw [Message.toText_eq h, Message.beforeColon]
  simp only [List.append_assoc]

theorem trim_body (h : Message.ofText? line = some m) : trim m.body = m.body := by
  obtain ⟨_, _, _, _, _, _, rest, _, _, _, _, hbody⟩ := Message.ofText?_eq_append h
  rw [hbody, trim_trim]

/-- No colon stands between the source of a message and its target. -/
theorem colon_not_mem {g0 g1 g2 : Text} (ha : arrow ∈ Message.arrows)
    (ht : ∀ c ∈ target, Message.isNameCharacter c = true) (hg0 : IsGap g0) (hg1 : IsGap g1) (hg2 : IsGap g2) :
    ':' ∉ g0 ++ arrow ++ g1 ++ target ++ g2 := by
  have hgap : ∀ gap, IsGap gap → ':' ∉ gap := fun gap hg hc => by cases hg ':' hc
  simp only [List.mem_append, not_or]
  exact ⟨⟨⟨⟨hgap g0 hg0, fun hc => (letters_of_mem_messageArrows ha _ hc).2 rfl⟩, hgap g1 hg1⟩,
    fun hc => (isNameCharacter_iff.mp (ht _ hc)).2 rfl⟩, hgap g2 hg2⟩

/-- A gap inside a text without blanks is empty. -/
theorem IsGap.eq_nil_of_subset {gap : Text} (hg : IsGap gap) (h : ∀ c ∈ gap, isBlank c = false) : gap = [] := by
  cases gap with
  | nil => rfl
  | cons c gap =>
    have hc := h c List.mem_cons_self
    rw [hg c List.mem_cons_self] at hc
    cases hc

/-- Gaps around parts that make up a text without blanks are empty. -/
theorem parts_eq_of_not_blank {arrow target g0 g1 g2 : Text} (hg0 : IsGap g0) (hg1 : IsGap g1) (hg2 : IsGap g2)
    (h : ∀ c ∈ g0 ++ arrow ++ g1 ++ target ++ g2, isBlank c = false) :
    g0 ++ arrow ++ g1 ++ target ++ g2 = arrow ++ target := by
  have hempty : ∀ gap, IsGap gap → (∀ c ∈ gap, c ∈ g0 ++ arrow ++ g1 ++ target ++ g2) → gap = [] :=
    fun gap hg hsub => hg.eq_nil_of_subset fun c hc => h c (hsub c hc)
  rw [hempty g0 hg0 (by simp +contextual), hempty g1 hg1 (by simp +contextual), hempty g2 hg2 (by simp +contextual)]
  simp

/-- No arrow, target and colon stand within the source of a message: it would have been shorter. -/
theorem source_ne_of_arrow {source rest : Text} (hn : '\n' ∉ line) (h : Message.ofText? line = some m)
    (hsource : source ≠ []) (ha : arrow ∈ Message.arrows) (hne : target ≠ [])
    (ht : ∀ c ∈ target, Message.isNameCharacter c = true) :
    m.source ≠ source ++ (arrow ++ target ++ ':' :: rest) := by
  intro he
  obtain ⟨behind, hline, hshortest⟩ := Message.ofText?_eq_some h
  have hnone := hshortest.shortest source _ he hsource (by simp)
  have hn' : '\n' ∉ rest ++ behind := by
    rw [hline, he] at hn
    simp only [List.mem_append, List.mem_cons, not_or] at hn ⊢
    exact ⟨hn.1.2.2.2, hn.2⟩
  refine arrowAndBody?_ne_none ha hne ht hn' ?_
  simpa using hnone

/-- The colon of a message that is read from a mended line is the one of that line, if its source is no longer. -/
theorem beforeColon_eq {m' : Message} {more : Text} (hn : '\n' ∉ line) (h : Message.ofText? line = some m)
    (h' : Message.ofText? m.toText = some m') (hsource : m.source = m'.source ++ more) :
    m'.beforeColon = m.beforeColon ∧ m'.body = m.body := by
  obtain ⟨ha, _, hname, _⟩ := Message.ofText?_eq_append h
  obtain ⟨ha', hne', hname', g0, g1, g2, rest, hg0, hg1, hg2, hline', hbody'⟩ := Message.ofText?_eq_append h'
  obtain ⟨_, _, hshortest'⟩ := Message.ofText?_eq_some h'
  have hcolon : ':' ∉ m.arrow ++ m.target := by
    have := colon_not_mem ha hname isGap_nil isGap_nil isGap_nil
    simpa using this
  have hparts : ∀ z, more ++ (m.arrow ++ m.target) = g0 ++ m'.arrow ++ g1 ++ m'.target ++ g2 ++ z →
      g0 ++ m'.arrow ++ g1 ++ m'.target ++ g2 = m'.arrow ++ m'.target := by
    intro z hz
    refine parts_eq_of_not_blank hg0 hg1 hg2 fun c hc => not_blank_of_mem_beforeColon h c ?_
    rw [Message.beforeColon, hsource, List.append_assoc, List.append_assoc, hz]
    exact List.mem_append_right _ (List.mem_append_left z hc)
  have hbehind : more ++ (m.arrow ++ m.target) ++ ':' :: spacedBody m.body =
      g0 ++ m'.arrow ++ g1 ++ m'.target ++ g2 ++ ':' :: rest := by
    rw [Message.toText_eq_append h, hsource] at hline'
    simpa using hline'
  have hcolon' := colon_not_mem ha' hname' hg0 hg1 hg2
  rcases append_eq_or_exists_append hbehind hcolon hcolon' with ⟨hjoined, hbody⟩ | ⟨z, hz⟩
  · have hno := hparts [] (by rw [hjoined, List.append_nil])
    refine ⟨?_, by rw [hbody', ← hbody, trim_spacedBody (trim_body h)]⟩
    rw [Message.beforeColon, Message.beforeColon, hsource, List.append_assoc, ← hno, ← hjoined]
    simp
  · -- The colon of `m'` would be inside the source of `m`.
    have hno := hparts (':' :: z ++ (m.arrow ++ m.target)) (by rw [hz]; simp)
    rw [hno] at hz
    rw [hz] at hsource
    exact absurd hsource (source_ne_of_arrow hn h hshortest'.ne_nil ha' hne' hname')

theorem newline_not_mem_body (hn : '\n' ∉ line) (h : Message.ofText? line = some m) : '\n' ∉ m.body := by
  obtain ⟨_, _, _, _, _, _, rest, _, _, _, hline, hbody⟩ := Message.ofText?_eq_append h
  rw [hbody]
  intro hb
  refine hn ?_
  rw [hline]
  exact List.mem_append_right _ (List.mem_cons_of_mem _ (mem_of_mem_trim hb))

/-- The mended line is read as a message with the same text, though perhaps with a shorter source. -/
theorem Message.exists_ofText?_toText (hn : '\n' ∉ line) (h : Message.ofText? line = some m) :
    ∃ m' more, Message.ofText? m.toText = some m' ∧ m.source = m'.source ++ more ∧
      m'.beforeColon = m.beforeColon ∧ m'.body = m.body := by
  obtain ⟨behind, hline, hshortest⟩ := Message.ofText?_eq_some h
  obtain ⟨ha, hne, hname, _⟩ := Message.ofText?_eq_append h
  have hn' : '\n' ∉ spacedBody m.body := newline_not_mem_spacedBody (newline_not_mem_body hn h)
  obtain ⟨less, more, ⟨arrow, target, body⟩, hsource, hless⟩ := exists_shortestRun hshortest.all hshortest.ne_nil
    (arrowAndBody?_ne_none ha hne hname hn')
  have hread : Message.ofText? m.toText = some ⟨less, arrow, target, body⟩ := by
    rw [Message.ofText?, shortestRun_eq_some_iff.mpr ⟨_, _, hless⟩]
    · rfl
    · rw [Message.toText_eq_append h]
      conv => lhs; rw [hsource]
      rw [List.append_assoc]
  exact ⟨_, more, hread, hsource, beforeColon_eq hn h hread hsource⟩

theorem Message.ofText?_toText (hn : '\n' ∉ line) (h : Message.ofText? line = some m) :
    ∃ m', Message.ofText? m.toText = some m' ∧ m'.toText = m.toText := by
  obtain ⟨m', _, hread, _, hbefore, hbody⟩ := Message.exists_ofText?_toText hn h
  exact ⟨m', hread, by rw [Message.toText_eq hread, Message.toText_eq h, hbefore, hbody]⟩

/-- A mended message is tight. -/
theorem Message.isTight_toText (hn : '\n' ∉ line) (h : Message.ofText? line = some m) : IsTight m.toText := by
  have hblank := not_blank_of_mem_beforeColon h
  have hn' : '\n' ∉ m.beforeColon := fun hm => by cases hblank '\n' hm
  refine ⟨?_, ?_⟩
  · rw [Message.toText]
    refine IsTail.of_trimEnd ?_
    rw [List.mem_append, not_or]
    refine ⟨hn', ?_⟩
    simp only [List.mem_cons, not_or]
    exact ⟨by decide, by decide, newline_not_mem_body hn h⟩
  · obtain ⟨_, _, hshortest⟩ := Message.ofText?_eq_some h
    obtain ⟨c, source, hc⟩ := List.exists_cons_of_ne_nil hshortest.ne_nil
    refine ⟨c, source ++ m.arrow ++ m.target ++ ':' :: spacedBody m.body, ?_, ?_⟩
    · rw [Message.toText_eq h, Message.beforeColon, hc]
      simp
    · exact not_blank_of_mem_source h c (by rw [hc]; exact List.mem_cons_self)

/-- The first word of a mended message goes up to its colon. -/
theorem Message.firstWord_toText (h : Message.ofText? line = some m) :
    firstWord m.toText = m.beforeColon ++ [':'] := by
  rw [Message.toText_eq h, List.append_cons]
  refine firstWord_append_of_not_blank (fun c hc => ?_) (spacedBody_eq_nil_or_cons m.body)
  rcases List.mem_append.mp hc with hc | hc
  · exact not_blank_of_mem_beforeColon h c hc
  · rw [List.mem_singleton.mp hc]
    decide

end Messages

/-! ## Mended lines -/

section Mended

theorem normalizeMessage_normalizeMessage (hn : '\n' ∉ line) :
    normalizeMessage (normalizeMessage line) = normalizeMessage line := by
  cases h : Message.ofText? line with
  | none => simp only [normalizeMessage, h]
  | some m =>
    obtain ⟨m', hread, htext⟩ := Message.ofText?_toText hn h
    simp only [normalizeMessage, h, hread, htext]

/-- Mending the spaces of a message keeps all that is not blank. -/
theorem plain_normalizeMessage (line : Text) : plain (normalizeMessage line) = plain line := by
  unfold normalizeMessage
  split
  · next m h =>
    obtain ⟨_, _, _, g0, g1, g2, rest, hg0, hg1, hg2, hline, hbody⟩ := Message.ofText?_eq_append h
    have hbody' : plain (spacedBody m.body) = plain rest := by
      rw [← plain_trim, trim_spacedBody (trim_body h), hbody, plain_trim]
    rw [Message.toText_eq h, Message.beforeColon, hline]
    simp only [plain_append, plain_cons, plain_gap hg0, plain_gap hg1, plain_gap hg2, hbody', List.nil_append,
      List.append_assoc]
  · rfl

theorem isTight_normalizeMessage (h : IsTight line) : IsTight (normalizeMessage line) := by
  unfold normalizeMessage
  split
  · next m hm => exact Message.isTight_toText h.newline hm
  · exact h

end Mended

end DiagramText
