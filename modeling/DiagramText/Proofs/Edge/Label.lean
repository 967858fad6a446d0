import DiagramText.Proofs.Edge.Headed

/-!
# Labels of nodes

A label is not taken as a whole: an arrow in it may be read as that of an edge whose source reaches into the label.

- A line stays as it is where it holds no edge, or one with mended spaces: `normalizeEdge_eq_self_iff` says so without
  the reader, by the longest name of a source in the line (`IsSourceName`) and what stands behind it (`IsMended`);
- a label without arrows is such a line (`hasMendedSpaces_of_no_arrow`);
- what stands in front of a line with an edge goes to the source, and stays as it is (`normalizeEdge_append`);
- no edge is ahead behind a piece of an identifier in front of a label (`not_edgeAhead_of_split`), so whether a label is
  edited, in a node or in the target of an edge, depends on the label alone (`normalizeEdge_label_iff`).
-/

namespace DiagramText

open Text

/-! ## Lines with mended spaces -/

/-- Behind the name of a source stands perhaps a shape, an arrow with single spaces around it, and a target. -/
def IsMended (text : Text) : Prop :=
  ∃ shape arrow label target, AreParts shape arrow label target ∧
    text = shape ++ (' ' :: arrow ++ (Edge.labelText label ++ ' ' :: target))

/-- The longest text that can be the name of a source: an edge is ahead behind it, and behind no longer one. -/
structure IsSourceName (name rest : Text) : Prop where
  run : EndsIn Edge.isSourceCharacter Edge.isSourceEnd name
  ahead : EdgeAhead rest
  longest : ∀ more rest', rest = more ++ rest' → EndsIn Edge.isSourceCharacter Edge.isSourceEnd more →
    ¬EdgeAhead rest'

/-- A line holds no edge, or one whose spaces are mended. -/
def HasMendedSpaces (line : Text) : Prop :=
  ∀ name rest, line = name ++ rest → IsSourceName name rest → IsMended rest

section Lines

variable {line before name rest : Text} {e : Edge}

/-- The longest name of a source is the one that is read. -/
theorem isSourceName_iff (h : IsTail (name ++ rest)) : IsSourceName name rest ↔
    ∃ parts, IsLongestRun Edge.isSourceCharacter Edge.isSourceEnd Edge.shapeAndTarget? name rest parts := by
  have hnone : ∀ more rest', rest = more ++ rest' → (Edge.shapeAndTarget? rest' = none ↔ ¬EdgeAhead rest') := by
    rintro more rest' rfl
    rw [← List.append_assoc] at h
    exact shapeAndTarget?_eq_none_iff h.of_append
  constructor
  · intro hname
    have hsome : Edge.shapeAndTarget? rest ≠ none := fun hread => (hnone [] rest rfl).mp hread hname.ahead
    obtain ⟨parts, hread⟩ := Option.ne_none_iff_exists'.mp hsome
    exact ⟨parts, hname.run, hread, fun more rest' hmore hends =>
      (hnone more rest' hmore).mpr (hname.longest more rest' hmore hends)⟩
  · rintro ⟨parts, hlongest⟩
    refine ⟨hlongest.run, ?_, fun more rest' hmore hends =>
      (hnone more rest' hmore).mp (hlongest.longest more rest' hmore hends)⟩
    refine Classical.byContradiction fun hno => ?_
    have hread := (hnone [] rest rfl).mpr hno
    rw [hlongest.eq_some] at hread
    cases hread

/-- A line is left alone exactly where its spaces are mended. -/
theorem normalizeEdge_eq_self_iff (h : IsTail line) : normalizeEdge line = line ↔ HasMendedSpaces line := by
  constructor
  · rintro hself name rest rfl hname
    obtain ⟨⟨shape, arrow, label, target⟩, hlongest⟩ := (isSourceName_iff h).mp hname
    refine ⟨shape, arrow, label, target, areParts_of_shapeAndTarget? h.of_append hlongest.eq_some, ?_⟩
    rw [normalizeEdge, Edge.ofText?_of_isLongestRun hlongest] at hself
    simp only [Edge.toText, List.append_assoc, List.append_cancel_left_eq] at hself
    simpa using hself.symm
  · intro hmended
    cases he : Edge.ofText? line with
    | none => simp only [normalizeEdge, he]
    | some e =>
      obtain ⟨name, shape, rest, rfl, hsource, hlongest⟩ := Edge.ofText?_eq_some he
      obtain ⟨shape', arrow', label', target', hparts, hrest⟩ :=
        hmended name rest rfl ((isSourceName_iff h).mpr ⟨_, hlongest⟩)
      -- The parts that stand there are the ones that are read.
      have hread := hparts.read
      rw [← hrest, hlongest.eq_some] at hread
      cases hread
      simp only [normalizeEdge, he, Edge.toText, hsource]
      rw [hrest]
      simp

/-- What stands in front of an edge, and can be in the name of a source, goes to its source. -/
theorem Edge.ofText?_append (hb : before.all Edge.isSourceCharacter = true) (he : Edge.ofText? line = some e) :
    Edge.ofText? (before ++ line) = some { e with source := before ++ e.source } := by
  obtain ⟨name, shape, rest, rfl, hsource, hlongest⟩ := Edge.ofText?_eq_some he
  rw [← List.append_assoc, Edge.ofText?_of_isLongestRun (hlongest.append hb), hsource, List.append_assoc]

theorem normalizeEdge_append (hb : before.all Edge.isSourceCharacter = true) (he : Edge.ofText? line = some e) :
    normalizeEdge (before ++ line) = before ++ normalizeEdge line := by
  simp only [normalizeEdge, Edge.ofText?_append hb he, he, Edge.toText, List.append_assoc]

end Lines

/-! ## Identifiers and labels -/

/-- A label in square brackets. -/
def bracketed (label : Text) : Text :=
  '[' :: (label ++ [']'])

section Labels

variable {label name source rest run : Text} {c : Char}

theorem isTight_bracketed (hn : '\n' ∉ label) : IsTight (bracketed label) := by
  refine ⟨⟨?_, fun c hc => ?_⟩, '[', label ++ [']'], rfl, by decide⟩
  · simp [bracketed, hn]
  · rw [bracketed, ← List.cons_append, List.getLast?_append] at hc
    cases hc
    decide

/-- The spaces of a label without arrows are mended. -/
theorem hasMendedSpaces_of_no_arrow (h : ∀ form ∈ Edge.arrows, ∀ arrow, form.Draws arrow → ¬arrow <:+: label) :
    HasMendedSpaces (bracketed label) := by
  intro name rest he hname
  obtain ⟨form, hf, arrow, hd, hin⟩ := hname.ahead.exists_arrow
  have hinfix : arrow <:+: bracketed label := he ▸ hin.trans (List.suffix_append name rest).isInfix
  obtain ⟨a, t, ha, hstart⟩ := hd.head hf
  refine absurd ?_ (h form hf arrow hd)
  rcases List.infix_cons_iff.mp hinfix with hopen | hinfix
  · -- No arrow starts with the bracket.
    obtain ⟨z, hz⟩ := hopen
    rw [ha, List.cons_append] at hz
    rw [(List.cons.inj hz).1] at hstart
    simp at hstart
  · rcases List.infix_concat_iff.mp hinfix with ⟨z, hz⟩ | hinfix
    · -- No arrow ends with the bracket.
      have hlast : arrow.getLast? = some ']' := by
        have hend := congrArg List.getLast? hz
        rw [List.getLast?_append, List.getLast?_concat, List.getLast?_eq_some_getLast (hd.ne_nil hf)] at hend
        rw [List.getLast?_eq_some_getLast (hd.ne_nil hf)]
        exact hend
      cases (hd.letter hf (List.mem_of_getLast? hlast)).2.2
    · exact hinfix

/-- No edge is ahead within an identifier. -/
theorem not_edgeAhead_cons (hc : isIdentifierPart c = true) (hr : rest.head? ≠ some '-') : ¬EdgeAhead (c :: rest) := by
  have hne : ∀ d, isIdentifierPart d = false → c ≠ d := by
    rintro d hd rfl
    rw [hd] at hc
    cases hc
  rintro (⟨form, hf, arrow, behind, hd, ht, _⟩ | ⟨opener, label, closer, behind, ht, hshape, _⟩)
  · rw [trimStart_cons_of_not_blank (isBlank_of_isIdentifierPart hc)] at ht
    obtain ⟨a, t, rfl, ha⟩ := hd.head hf
    obtain ⟨rfl, rfl⟩ := List.cons.inj ht
    rcases ha with ha | ⟨_, ha⟩
    · have hmark : (['-', '=', '.', '<'].all fun d => !isIdentifierPart d) = true := by decide
      exact hne c (by simpa using List.all_eq_true.mp hmark c ha) rfl
    · obtain ⟨t', rfl⟩ := List.head?_eq_some_iff.mp ha
      exact hr rfl
  · cases hshape with
    | bracket ho _ _ _ _ =>
      rw [(List.cons.inj ht).1] at hc hne
      simp only [isOpener, Bool.or_eq_true, beq_iff_eq] at ho
      rcases ho with (rfl | rfl) | rfl <;> exact hne _ (by decide) rfl
    | angle _ => exact hne '>' (by decide) (List.cons.inj ht).1

/-- No edge is ahead of a label and what follows its bracket: nothing. -/
theorem not_edgeAhead_bracketed (hcl : ∀ d ∈ label, isCloser d = false) : ¬EdgeAhead (bracketed label) := by
  rintro (⟨form, hf, arrow, behind, hd, ht, _⟩ | ⟨opener, label', closer, behind, ht, hshape, hahead⟩)
  · have hstart : trimStart (bracketed label) = bracketed label := trimStart_cons_of_not_blank (by decide) _
    rw [hstart] at ht
    obtain ⟨a, t, rfl, ha⟩ := hd.head hf
    obtain ⟨rfl, _⟩ := List.cons.inj ht
    rcases ha with ha | ⟨ha | ha, _⟩
    · exact absurd ha (by decide)
    · cases ha
    · cases ha
  · have hread := shape?_eq_some_iff.mpr ⟨opener, label', closer, rfl, ht, hshape⟩
    have hown : bracketShape? ('[' :: label ++ [']'] ++ []) = some ('[' :: label ++ [']'], []) :=
      bracketShape?_of_isShape rfl hcl (by simp) (by simp [isCloser]) (by simp)
    rw [List.append_nil, List.cons_append, ← bracketed] at hown
    rw [hown, Option.some_or] at hread
    obtain ⟨-, rfl⟩ := Prod.mk.inj (Option.some.inj hread)
    obtain ⟨form, hf, arrow, behind, hd, ht, hne⟩ := hahead
    exact hne (List.append_eq_nil_iff.mp ht.symm).2

/-- Where no edge is in a label, none is ahead behind a piece of an identifier in front of it, or a longer one. -/
theorem not_edgeAhead_of_split (hname : ∀ d ∈ name, isIdentifierPart d = true)
    (hcl : ∀ d ∈ label, isCloser d = false) (hn : '\n' ∉ label) (hnone : Edge.ofText? (bracketed label) = none)
    (he : name ++ bracketed label = run ++ rest)
    (hrun : run = [] ∨ EndsIn Edge.isSourceCharacter Edge.isSourceEnd run) : ¬EdgeAhead rest := by
  have htail := (isTight_bracketed hn).toIsTail
  rcases List.append_eq_append_iff.mp he with ⟨m, hm, hrest⟩ | ⟨m, hm, hrest⟩
  · by_cases hne : m = []
    · rw [hne, List.nil_append] at hrest
      exact hrest ▸ not_edgeAhead_bracketed hcl
    · have hends : EndsIn Edge.isSourceCharacter Edge.isSourceEnd m := by
        have := hrun.resolve_left fun h => hne (List.append_eq_nil_iff.mp (hm.symm.trans h)).2
        exact (hm ▸ this).of_append hne
      have hread := longestRun_eq_none_iff.mp (Option.map_eq_none_iff.mp hnone) m rest hrest hends
      rw [hrest] at htail
      exact (shapeAndTarget?_eq_none_iff htail.of_append).mp hread
  · cases m with
    | nil =>
      rw [hrest]
      exact not_edgeAhead_bracketed hcl
    | cons c m =>
      rw [hrest, List.cons_append]
      refine not_edgeAhead_cons (hname c (by rw [hm]; simp)) ?_
      cases m with
      | nil => exact fun hd => by cases hd
      | cons d m =>
        intro hd
        have hdash : d = '-' := Option.some.inj hd
        have := hname d (by rw [hm]; simp)
        rw [hdash] at this
        cases this

/-- The only opening bracket of a label with other blanks is its first character. -/
theorem exists_cons_of_dense_eq {text : Text} (h : IsTight text) (ho : '[' ∉ label)
    (hd : dense text = dense (bracketed label)) : ∃ rest, text = '[' :: rest ∧ '[' ∉ rest := by
  obtain ⟨c, rest, rfl, hc⟩ := h.first
  have hcons : dense (c :: rest) = c :: dense rest := by simp [dense, hc]
  have hlabel : dense (bracketed label) = '[' :: dense (label ++ [']']) := rfl
  rw [hcons, hlabel] at hd
  obtain ⟨rfl, hrest⟩ := List.cons.inj hd
  refine ⟨rest, rfl, fun hm => ?_⟩
  have hdense : '[' ∈ dense rest := List.mem_filter.mpr ⟨hm, by decide⟩
  rw [hrest] at hdense
  have hend := (List.mem_filter.mp hdense).1
  simp [ho] at hend

/-- A label is found behind a text without brackets only where it stands as it is. -/
theorem bracketed_isInfix_iff {before text : Text} (hb : '[' ∉ before) (ho : '[' ∉ label) (h : IsTight text)
    (hd : dense text = dense (bracketed label)) :
    bracketed label <:+: before ++ text ↔ text = bracketed label := by
  constructor
  · rintro ⟨x, y, he⟩
    obtain ⟨rest, rfl, hrest⟩ := exists_cons_of_dense_eq h ho hd
    obtain ⟨m, -, hm⟩ := exists_append_of_not_mem (x := x) (s := bracketed label ++ y)
      (by rw [← he, List.append_assoc]) ⟨'[', _, rfl, hb⟩
    cases m with
    | cons d m =>
      refine absurd ?_ hrest
      rw [(List.cons.inj hm).2]
      simp [bracketed]
    | nil =>
      rw [List.nil_append] at hm
      rw [hm, dense_append, List.append_right_eq_self] at hd
      have hgap : IsGap y := fun d hy => by simpa using List.filter_eq_nil_iff.mp hd d hy
      rw [hm] at h
      rw [hm, h.toIsTail.of_append.eq_nil_of_gap hgap, List.append_nil]
  · rintro rfl
    exact ⟨before, [], by simp⟩

end Labels

/-! ## Targets with a label -/

section Targets

variable {label name source text : Text}

theorem isTight_named (h : isIdentifier name = true) (hn : '\n' ∉ label) : IsTight (name ++ bracketed label) := by
  obtain ⟨c, rest, rfl, hc, _⟩ := isIdentifier_iff.mp h
  have htight := isTight_bracketed hn
  exact ⟨htight.toIsTail.append htight.ne_nil (not_mem_of_isIdentifier h isMark_newline.part), c,
    rest ++ bracketed label, rfl, isBlank_of_isIdentifierPart (isIdentifierPart_of_start hc)⟩

/-- Where no edge is in the label of a node, none is in its line. -/
theorem Edge.ofText?_named (hname : isIdentifier name = true) (hcl : ∀ d ∈ label, isCloser d = false)
    (hn : '\n' ∉ label) (hnone : Edge.ofText? (bracketed label) = none) :
    Edge.ofText? (name ++ bracketed label) = none := by
  refine Option.map_eq_none_iff.mpr (longestRun_eq_none_iff.mpr fun run rest he hends => ?_)
  have htail := (isTight_named hname hn).toIsTail
  rw [he] at htail
  exact (shapeAndTarget?_eq_none_iff htail.of_append).mpr
    (not_edgeAhead_of_split (fun d hd => isIdentifierPart_of_mem hname hd) hcl hn hnone he (Or.inr hends))

/-- Where no edge is in the label of a target, the source of the edge ends before the plain arrow. -/
theorem Edge.ofText?_target (hs : isIdentifier source = true) (hname : isIdentifier name = true)
    (hcl : ∀ d ∈ label, isCloser d = false) (hn : '\n' ∉ label) (hnone : Edge.ofText? (bracketed label) = none) :
    Edge.ofText? (source ++ (['-', '-', '>'] ++ (name ++ bracketed label))) =
      some ⟨source, ['-', '-', '>'], none, name ++ bracketed label⟩ := by
  have htight := isTight_named hname hn
  have hbar : (name ++ bracketed label).head? ≠ some '|' := by
    obtain ⟨c, rest, rfl, hc, _⟩ := isIdentifier_iff.mp hname
    intro hhead
    cases hhead
    cases hc
  have hread := labelAndTarget?_of_isTight htight isGap_nil List.not_mem_nil hbar
  exact Edge.ofText?_headed (n := 0) hs (Or.inl rfl) isGap_nil htight.toIsTail hread fun more rest he hmore =>
    not_edgeAhead_of_split (fun d hd => isIdentifierPart_of_mem hname hd) hcl hn hnone he hmore

end Targets

/-! ## Labels that stay as they are -/

section Stay

variable {label : Text}

/-- **When a label is edited.** A label without brackets stays as it is in a node, and in the target of an edge, exactly
where it holds no edge or one whose spaces are mended: neither the node nor the source matters. -/
theorem normalizeEdge_label_iff (hn : '\n' ∉ label) (hb : ∀ c ∈ label, isOpener c = false ∧ isCloser c = false) :
    (∀ name, isIdentifier name = true →
      (normalizeEdge (name ++ bracketed label) = name ++ bracketed label ↔ HasMendedSpaces (bracketed label))) ∧
    ∀ source name, isIdentifier source = true → isIdentifier name = true →
      (bracketed label <:+: normalizeEdge (source ++ ("-->".toList ++ (name ++ bracketed label))) ↔
        HasMendedSpaces (bracketed label)) := by
  have htight := isTight_bracketed hn
  have hcl : ∀ c ∈ label, isCloser c = false := fun c hc => (hb c hc).2
  rw [← normalizeEdge_eq_self_iff htight.toIsTail]
  cases hread : Edge.ofText? (bracketed label) with
  | none =>
    have hself : normalizeEdge (bracketed label) = bracketed label := by simp only [normalizeEdge, hread]
    refine ⟨fun name hname => iff_of_true ?_ hself, fun source name hs hname => iff_of_true ?_ hself⟩
    · simp only [normalizeEdge, Edge.ofText?_named hname hcl hn hread]
    · have hwhole := Edge.ofText?_target hs hname hcl hn hread
      refine ⟨source ++ ' ' :: ['-', '-', '>'] ++ ' ' :: name, [], ?_⟩
      simp only [normalizeEdge]
      rw [show "-->".toList = ['-', '-', '>'] from rfl, hwhole]
      simp [Edge.toText, Edge.labelText]
  | some e =>
    refine ⟨fun name hname => ?_, fun source name hs hname => ?_⟩
    · rw [normalizeEdge_append (endsIn_of_isIdentifier hname).1 hread, List.append_cancel_left_eq]
    · -- The whole line up to the bracket goes to the source.
      have hbefore : (source ++ "-->".toList ++ name).all Edge.isSourceCharacter = true := by
        rw [List.all_append, List.all_append, (endsIn_of_isIdentifier hs).1, (endsIn_of_isIdentifier hname).1]
        decide
      have hbracket : '[' ∉ source ++ "-->".toList ++ name := by
        rw [List.mem_append, List.mem_append, not_or, not_or]
        exact ⟨⟨not_mem_of_isIdentifier hs (by decide), by decide⟩, not_mem_of_isIdentifier hname (by decide)⟩
      have hopen : '[' ∉ label := fun hm => by cases (hb '[' hm).1
      have hsplit : source ++ ("-->".toList ++ (name ++ bracketed label)) =
          (source ++ "-->".toList ++ name) ++ bracketed label := by simp
      rw [hsplit, normalizeEdge_append hbefore hread]
      exact bracketed_isInfix_iff hbracket hopen (isTight_normalizeEdge htight) (dense_normalizeEdge htight.toIsTail)

/-- A label that holds an edge with mended spaces stays as it is. -/
theorem mended_label_stays :
    normalizeEdge "a[yes --> no]".toList = "a[yes --> no]".toList ∧
      "[yes --> no]".toList <:+: normalizeEdge "b-->a[yes --> no]".toList := by
  have hmended : HasMendedSpaces (bracketed "yes --> no".toList) :=
    (normalizeEdge_eq_self_iff (isTight_bracketed (by decide)).toIsTail).mp (by decide +kernel)
  have hnewline : '\n' ∉ "yes --> no".toList := by decide
  have hplain : ("yes --> no".toList.all fun c => !isOpener c && !isCloser c) = true := by decide
  have hlabel := normalizeEdge_label_iff hnewline fun c hc => by simpa using List.all_eq_true.mp hplain c hc
  exact ⟨(hlabel.1 "a".toList (by decide)).mpr hmended,
    (hlabel.2 "b".toList "a".toList (by decide) (by decide)).mpr hmended⟩

/-- An arrow without spaces in a label is taken for that of an edge. -/
theorem arrow_in_label_is_mended :
    normalizeEdge "a[x-->y]".toList ≠ "a[x-->y]".toList ∧
      ¬"[x-->y]".toList <:+: normalizeEdge "b-->a[x-->y]".toList := by
  decide +kernel

end Stay

end DiagramText
