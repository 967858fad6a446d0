import DiagramText.Proofs.Message

/-!
# Messages read again

The gaps of a message part its source, its arrow and its target. Where they are left out, an arrow may come to stand
further to the front, or become a longer one: the mended line is then another message.

- The arrow of a message is the longest one behind its source (`Message.length_arrow_le`);
- `Message.IsClear` lists what would make a line without gaps another message, by the parts of the message alone;
- a mended line is read as the same message exactly where nothing of this is the case
  (`Message.ofText?_normalizeMessage_iff`).
-/

namespace DiagramText

open Text

/-- The source, the arrow and the target of a message can be told apart without gaps between them. -/
structure Message.IsClear (m : Message) : Prop where
  /-- An arrow in the source, behind its first character, has a colon behind it that parts it from the target. -/
  inside : ∀ before arrow behind, m.source = before ++ arrow ++ behind → before ≠ [] → arrow ∈ Message.arrows →
    ':' ∈ behind
  /-- No dash at the end of the source makes the arrow a dashed one. -/
  dash : ∀ before, m.source = before ++ ['-'] → before ≠ [] → '-' :: m.arrow ∉ Message.arrows
  /-- No head at the start of the target makes the arrow a longer one, unless it is the whole target. -/
  head : ∀ behind, m.target = '>' :: behind → m.arrow ++ ['>'] ∈ Message.arrows → behind = []

variable {line text arrow target body rest : Text} {m : Message}

/-! ## The longest arrow -/

section Arrows

/-- No arrow of a message starts a later one. -/
theorem pairwise_messageArrows : Message.arrows.Pairwise fun a b => ¬a <+: b := by
  decide

/-- An arrow that goes on where another one ends has one more head. -/
theorem messageArrow_eq_or {a b : Text} (ha : a ∈ Message.arrows) (hb : b ∈ Message.arrows) (h : a <+: b) :
    b = a ∨ b = a ++ ['>'] := by
  have hall : ∀ a ∈ Message.arrows, ∀ b ∈ Message.arrows, a <+: b → b = a ∨ b = a ++ ['>'] := by decide
  exact hall a ha b hb h

/-- A dash within an arrow is its second character, and what starts there is an arrow too. -/
theorem messageArrow_of_dash_within {u v : Text} (h : u ++ '-' :: v ∈ Message.arrows) (hu : u ≠ []) :
    u = ['-'] ∧ '-' :: v ∈ Message.arrows := by
  have hall : ∀ a ∈ Message.arrows, '-' ∉ a.drop 2 ∧ (a.tail.head? = some '-' → a.tail ∈ Message.arrows) := by decide
  obtain ⟨c, u, rfl⟩ := List.exists_cons_of_ne_nil hu
  obtain ⟨hdrop, htail⟩ := hall _ h
  cases u with
  | nil =>
    obtain ⟨t, ht⟩ := head_of_mem_messageArrows h
    have hc : c = '-' := (List.cons.inj ht).1
    exact ⟨by rw [hc], htail rfl⟩
  | cons d u => exact absurd (by simp) hdrop

/-- A dash that makes one arrow a dashed one does so with every arrow from the same place. -/
theorem dashed_messageArrow {a b x y : Text} (ha : a ∈ Message.arrows) (hb : b ∈ Message.arrows)
    (he : a ++ x = b ++ y) (h : '-' :: a ∈ Message.arrows) : '-' :: b ∈ Message.arrows := by
  have hall : ∀ a ∈ Message.arrows, ∀ b ∈ Message.arrows, (a <+: b ∨ b <+: a) → '-' :: a ∈ Message.arrows →
      '-' :: b ∈ Message.arrows := by
    decide
  refine hall a ha b hb ?_ h
  rcases List.append_eq_append_iff.mp he with ⟨z, hz, _⟩ | ⟨z, hz, _⟩
  · exact Or.inl ⟨z, hz.symm⟩
  · exact Or.inr ⟨z, hz.symm⟩

/-- The arrow that is read behind a source is the longest one behind which a target and a colon stand. -/
theorem length_messageArrow_le {arrow' target' : Text}
    (h : Message.arrowAndBody? (arrow ++ target ++ ':' :: rest) = some (arrow', target', body))
    (ha : arrow ∈ Message.arrows) (hne : target ≠ []) (hname : ∀ c ∈ target, Message.isNameCharacter c = true)
    (hn : '\n' ∉ rest) : arrow.length ≤ arrow'.length := by
  obtain ⟨t, harrow⟩ := head_of_mem_messageArrows ha
  have hstart : trimStart (arrow ++ target ++ ':' :: rest) = arrow ++ (target ++ ':' :: rest) := by
    rw [harrow, List.append_assoc]
    exact trimStart_cons_of_not_blank (by decide) _
  refine firstOf?_longest pairwise_messageArrows h arrow ha _ hstart ?_
  rw [targetAndBody?_append hne hname hn]
  exact Option.some_ne_none _

end Arrows

/-! ## Parts that can be told apart -/

section Clear

variable {source more : Text}

/-- Where the parts of a message can be told apart, no piece of its source goes to another arrow and target. -/
theorem Message.IsClear.eq_nil_of_joined (hclear : m.IsClear) (ha : m.arrow ∈ Message.arrows)
    (hs : m.source = source ++ more) (hsource : source ≠ []) (ha' : arrow ∈ Message.arrows)
    (hname : ∀ c ∈ target, Message.isNameCharacter c = true)
    (hjoined : arrow ++ target = more ++ (m.arrow ++ m.target)) : more = [] := by
  refine Classical.byContradiction fun hne => ?_
  rcases List.append_eq_append_iff.mp hjoined with ⟨z, hz, ht⟩ | ⟨z, hz, ht⟩
  · -- The arrow is inside the source: no colon would part it from the target.
    have hcolon := hclear.inside source arrow z (by rw [hs, hz, List.append_assoc]) hsource ha'
    exact (isNameCharacter_iff.mp (hname ':' (by rw [ht]; simp [hcolon]))).2 rfl
  · cases z with
    | nil =>
      rw [List.append_nil] at hz
      have hcolon := hclear.inside source arrow [] (by rw [hs, hz, List.append_nil]) hsource ha'
      cases hcolon
    | cons c z =>
      -- The arrow begins in the source and goes on in the arrow of the message.
      obtain ⟨t, harrow⟩ := head_of_mem_messageArrows ha
      rw [harrow] at ht
      obtain rfl : c = '-' := (List.cons.inj ht).1.symm
      rw [hz] at ha'
      obtain ⟨hdash, hz'⟩ := messageArrow_of_dash_within ha' hne
      rw [hdash] at hs ha'
      rw [← harrow] at ht
      exact hclear.dash source hs hsource (dashed_messageArrow hz' ha ht.symm ha')

/-- Where the parts of a message can be told apart, its arrow is no shorter than another one in its place. -/
theorem Message.IsClear.arrow_eq (hclear : m.IsClear) (ha : m.arrow ∈ Message.arrows) (ha' : arrow ∈ Message.arrows)
    (hne : target ≠ []) (hle : m.arrow.length ≤ arrow.length) (hjoined : arrow ++ target = m.arrow ++ m.target) :
    arrow = m.arrow := by
  rcases List.append_eq_append_iff.mp hjoined with ⟨z, hz, _⟩ | ⟨z, hz, ht⟩
  · rw [hz, List.length_append] at hle
    have hnil : z = [] := List.eq_nil_of_length_eq_zero (by omega)
    rw [hz, hnil, List.append_nil]
  · refine (messageArrow_eq_or ha ha' ⟨z, hz.symm⟩).resolve_right fun hlonger => ?_
    rw [hlonger, List.append_cancel_left_eq] at hz
    rw [← hz] at ht
    exact hne (hclear.head target ht (hlonger ▸ ha'))

end Clear

/-! ## Mended messages -/

section Mended

variable {m' : Message}

/-- A message with the same source that is read from a mended line is read from what was read before. -/
theorem Message.isShortestRun_toText (h : Message.ofText? line = some m) (hagain : Message.ofText? m.toText = some m')
    (hs : m'.source = m.source) :
    IsShortestRun (!isBlank ·) Message.arrowAndBody? m.source (m.arrow ++ m.target ++ ':' :: spacedBody m.body)
      (m'.arrow, m'.target, m'.body) := by
  obtain ⟨behind, hline, hshortest⟩ := Message.ofText?_eq_some hagain
  rw [Message.toText_eq_append h, hs] at hline
  rw [hs] at hshortest
  rw [List.append_cancel_left hline]
  exact hshortest

/-- A message that is read from its mended line has its source, arrow and target told apart. -/
theorem Message.isClear_of_ofText?_toText (hn : '\n' ∉ line) (h : Message.ofText? line = some m)
    (hagain : Message.ofText? m.toText = some m) : m.IsClear := by
  obtain ⟨ha, hne, hname, _⟩ := Message.ofText?_eq_append h
  have hshortest := Message.isShortestRun_toText h hagain rfl
  have hn' : '\n' ∉ spacedBody m.body := newline_not_mem_spacedBody (newline_not_mem_body hn h)
  refine ⟨fun before arrow behind hs hb harrow => ?_, fun before hs hb hdash => ?_, fun behind ht hhead => ?_⟩
  · -- Without a colon behind it, the arrow in the source would have been taken.
    refine Classical.byContradiction fun hno => ?_
    obtain ⟨t, hdash⟩ := head_of_mem_messageArrows harrow
    have hnone := hshortest.shortest before (arrow ++ behind) (by rw [hs, List.append_assoc]) hb (by simp [hdash])
    have htarget : ∀ c ∈ behind ++ (m.arrow ++ m.target), Message.isNameCharacter c = true := by
      simp only [List.mem_append]
      rintro c (hc | hc | hc)
      · exact isNameCharacter_iff.mpr ⟨not_blank_of_mem_source h c (by rw [hs]; simp [hc]), fun he => hno (he ▸ hc)⟩
      · exact isNameCharacter_iff.mpr (letters_of_mem_messageArrows ha c hc)
      · exact hname c hc
    have hsome := arrowAndBody?_ne_none harrow (by simp [hne]) htarget hn'
    refine hsome ?_
    rw [← hnone]
    simp only [List.append_assoc]
  · -- The dashed arrow would have been taken.
    have hnone := hshortest.shortest before ['-'] hs hb (by simp)
    exact arrowAndBody?_ne_none hdash hne hname hn' hnone
  · -- The longer arrow would have been taken.
    refine Classical.byContradiction fun hmore => ?_
    have hread := hshortest.eq_some
    rw [ht, List.append_cons m.arrow '>' behind] at hread
    have hle := length_messageArrow_le hread hhead hmore (fun c hc => hname c (by rw [ht]; simp [hc])) hn'
    rw [List.length_append, List.length_singleton] at hle
    omega

/-- A message whose parts can be told apart is read from its mended line. -/
theorem Message.ofText?_toText_of_isClear (hn : '\n' ∉ line) (h : Message.ofText? line = some m) (hclear : m.IsClear) :
    Message.ofText? m.toText = some m := by
  obtain ⟨m', more, hread, hsource, hbefore, hbody⟩ := Message.exists_ofText?_toText hn h
  obtain ⟨ha, hne, hname, _⟩ := Message.ofText?_eq_append h
  obtain ⟨ha', hne', hname', _⟩ := Message.ofText?_eq_append hread
  obtain ⟨_, _, hshortest'⟩ := Message.ofText?_eq_some hread
  have hjoined : m'.arrow ++ m'.target = more ++ (m.arrow ++ m.target) := by
    rw [Message.beforeColon, Message.beforeColon, hsource] at hbefore
    simpa using hbefore
  have hmore := hclear.eq_nil_of_joined ha hsource hshortest'.ne_nil ha' hname' hjoined
  rw [hmore, List.nil_append] at hjoined
  rw [hmore, List.append_nil] at hsource
  have hshortest := Message.isShortestRun_toText h hread hsource.symm
  have hn' : '\n' ∉ spacedBody m.body := newline_not_mem_spacedBody (newline_not_mem_body hn h)
  have harrow := hclear.arrow_eq ha ha' hne' (length_messageArrow_le hshortest.eq_some ha hne hname hn') hjoined
  rw [harrow] at hjoined
  have htarget := List.append_cancel_left hjoined
  have hm : m' = m := by
    cases m
    cases m'
    simp_all only
  rw [hread, hm]

/-- **When a mended message is the same.** The mended line holds the source, the arrow, the target and the body of the
message, and it is read as them exactly where source, arrow and target can be told apart. -/
theorem Message.ofText?_normalizeMessage_iff (hn : '\n' ∉ line) (h : Message.ofText? line = some m) :
    normalizeMessage line = m.source ++ m.arrow ++ m.target ++ ':' :: spacedBody m.body ∧
      (Message.ofText? (normalizeMessage line) = some m ↔ m.IsClear) := by
  have htext : normalizeMessage line = m.toText := by simp only [normalizeMessage, h]
  refine ⟨htext.trans (Message.toText_eq h), ?_⟩
  rw [htext]
  exact ⟨Message.isClear_of_ofText?_toText hn h, Message.ofText?_toText_of_isClear hn h⟩

/-- A dash within a source and an arrow in the body leave the parts of a message told apart. -/
theorem dashed_source_is_clear :
    normalizeMessage "web-app  -->> api : a ->> b".toList = "web-app-->>api: a ->> b".toList ∧
      Message.IsClear ⟨"web-app".toList, "-->>".toList, "api".toList, "a ->> b".toList⟩ := by
  have hnewline : '\n' ∉ "web-app  -->> api : a ->> b".toList := by decide
  have hread : Message.ofText? "web-app  -->> api : a ->> b".toList =
      some ⟨"web-app".toList, "-->>".toList, "api".toList, "a ->> b".toList⟩ := by
    decide +kernel
  have hmended := Message.ofText?_normalizeMessage_iff hnewline hread
  refine ⟨hmended.1.trans (by decide +kernel), hmended.2.mp ?_⟩
  rw [hmended.1]
  decide +kernel

/-- A dash at the end of a source becomes part of the arrow: another participant sends a dotted arrow. -/
theorem dash_before_arrow_is_read_again :
    Message.ofText? "a- ->>b: x".toList = some ⟨"a-".toList, "->>".toList, "b".toList, "x".toList⟩ ∧
      Message.ofText? (normalizeMessage "a- ->>b: x".toList) =
        some ⟨"a".toList, "-->>".toList, "b".toList, "x".toList⟩ := by
  decide +kernel

end Mended

end DiagramText
