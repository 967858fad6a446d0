import DiagramText.Proofs.Ends.Reversal

/-!
# Ends swapped twice

A line is read as an edge if it can be, and else as a message. What the ends of a swapped line are is read anew.

- `Ends.IsRead` says of the parts of a line alone that they are what is read (`Ends.ofLine?_eq_some_iff`);
- a line whose ends are swapped twice is restored where its ends can change places, and else only where another cut of
  the line has the same exchange and ends that can (`swapEnds_swapEnds_iff`);
- it is restored where it is an edge between two nodes, each of which can be a source and a target, with a blank before
  the arrow (`swapEnds_nodes`).
-/

namespace DiagramText

open Text

variable {line : Text} {e : Ends}

/-! ## What is read -/

/-- The parts of a line are those of an edge, or of a message where the line holds no edge. -/
def Ends.IsRead (e : Ends) : Prop :=
  e.IsEdge ∨ (∀ f : Ends, f.IsEdge → f.toText ≠ e.toText) ∧ e.IsMessage

section Read

theorem Ends.ofLine?_eq_some_iff (hn : '\n' ∉ line) :
    Ends.ofLine? line = some e ↔ line = e.toText ∧ e.IsRead := by
  rw [Ends.ofLine?, Option.or_eq_some_iff, Ends.ofEdge?_eq_none_iff_forall hn, Ends.ofEdge?_eq_some_iff hn,
    Ends.ofMessage?_eq_some_iff hn, Ends.IsRead]
  constructor
  · rintro (⟨ht, hedge⟩ | ⟨hno, ht, hmessage⟩)
    · exact ⟨ht, Or.inl hedge⟩
    · exact ⟨ht, Or.inr ⟨ht ▸ hno, hmessage⟩⟩
  · rintro ⟨ht, hedge | ⟨hno, hmessage⟩⟩
    · exact Or.inl ⟨ht, hedge⟩
    · exact Or.inr ⟨ht ▸ hno, ht, hmessage⟩

/-- What is read of a line stands behind the blanks at its start. -/
theorem Ends.IsRead.before (h : e.IsRead) : IsGap e.before := by
  rcases h with h | ⟨-, h⟩
  · exact h.before
  · exact h.before

/-- The parts of a message are what is read where no edge is. -/
theorem Ends.IsMessage.isRead (h : e.IsMessage) (hn : '\n' ∉ e.toText) (hno : Ends.ofEdge? e.toText = none) :
    e.IsRead := by
  refine Or.inr ⟨fun f hf ht => ?_, h⟩
  rw [(Ends.ofEdge?_eq_some_iff hn).mpr ⟨ht.symm, hf⟩] at hno
  cases hno

/-- A line of which nothing is read stays as it is. -/
theorem swapEnds_eq_self (h : Ends.ofLine? line = none) : swapEnds line = line := by
  rw [swapEnds, swapEnds?, h]
  rfl

/-- The ends that are read are the ones that are swapped. -/
theorem swapEnds_toText (hn : '\n' ∉ e.toText) (h : e.IsRead) : swapEnds e.toText = e.swap.toText := by
  rw [swapEnds, swapEnds?, (Ends.ofLine?_eq_some_iff hn).mpr ⟨rfl, h⟩]
  rfl

theorem newline_not_mem_swap (hn : '\n' ∉ e.toText) : '\n' ∉ e.swap.toText := by
  simp only [Ends.toText, List.mem_append, not_or, Ends.swap] at hn ⊢
  obtain ⟨⟨⟨⟨hbefore, hsource⟩, hbetween⟩, htarget⟩, hbehind⟩ := hn
  exact ⟨⟨⟨⟨hbefore, htarget⟩, hbetween⟩, hsource⟩, hbehind⟩

end Read

/-! ## Two swaps -/

namespace Ends

/-- Another cut of the line has the same exchange, and its ends can change places. So it is where parts of the line are
repeated, as in `a-->a---a`: exchanging the ends of either arrow gives `a---a-->a`. -/
def HasTwin (e : Ends) : Prop :=
  ∃ g : Ends, g ≠ e ∧ g.toText = e.toText ∧ g.swap.toText = e.swap.toText ∧ g.IsReversible

end Ends

section Twice

/-- Ends can change places exactly where the exchanged ones are what is read of the line that they make. -/
theorem Ends.isRead_swap_iff (hn : '\n' ∉ e.toText) : e.swap.IsRead ↔ e.IsReversible := by
  rw [Ends.IsRead, Ends.IsReversible, isEdge_swap_iff, isMessage_swap_iff (newline_not_mem_swap hn)]

/-- A second swap restores a line exactly where the exchange of some cut of it is what is read of the swapped line. -/
theorem swapEnds_swapEnds_toText_iff (hn : '\n' ∉ e.toText) (h : e.IsRead) :
    swapEnds (swapEnds e.toText) = e.toText ↔ e.IsReversible ∨ e.HasTwin := by
  have hn' := newline_not_mem_swap hn
  rw [swapEnds_toText hn h]
  constructor
  · intro htwice
    cases hread : Ends.ofLine? e.swap.toText with
    | none =>
      -- The swapped line would be left alone, and be the line that was swapped.
      rw [(swapEnds_eq_self hread).symm.trans htwice, (Ends.ofLine?_eq_some_iff hn).mpr ⟨rfl, h⟩] at hread
      cases hread
    | some f =>
      obtain ⟨ht, hf⟩ := (Ends.ofLine?_eq_some_iff hn').mp hread
      rw [ht] at hn' htwice
      have hback : f.swap.toText = e.toText := (swapEnds_toText hn' hf).symm.trans htwice
      have hr : f.swap.IsReversible := (Ends.isRead_swap_iff (hback ▸ hn)).mp hf
      by_cases hfe : f.swap = e
      · exact Or.inl (hfe ▸ hr)
      · exact Or.inr ⟨f.swap, hfe, hback, ht.symm, hr⟩
  · intro hall
    obtain ⟨g, ht, hswap, hr⟩ :
        ∃ g : Ends, g.toText = e.toText ∧ g.swap.toText = e.swap.toText ∧ g.IsReversible := by
      rcases hall with hr | ⟨g, -, hg⟩
      · exact ⟨e, rfl, rfl, hr⟩
      · exact ⟨g, hg⟩
    rw [← ht] at hn
    have hread : g.swap.IsRead := (Ends.isRead_swap_iff hn).mpr hr
    rw [← hswap, swapEnds_toText (newline_not_mem_swap hn) hread, Ends.swap_swap, ht]

/-- **When swapping twice restores a line.** The ends that are read of it can change places, or those of another cut
with the same exchange can. -/
theorem swapEnds_swapEnds_iff (hn : '\n' ∉ line) : swapEnds (swapEnds line) = line ↔
    ∀ e : Ends, e.IsRead → e.toText = line → e.IsReversible ∨ e.HasTwin := by
  constructor
  · rintro htwice e he rfl
    exact (swapEnds_swapEnds_toText_iff hn he).mp htwice
  · intro hall
    cases hread : Ends.ofLine? line with
    | none => rw [swapEnds_eq_self hread, swapEnds_eq_self hread]
    | some e =>
      obtain ⟨rfl, he⟩ := (Ends.ofLine?_eq_some_iff hn).mp hread
      exact (swapEnds_swapEnds_toText_iff hn he).mpr (hall e he rfl)

/-- An arrow in a source stays there where a blank parts it from the arrow of the edge. -/
theorem swap_twice_keeps_arrow_in_source :
    '\n' ∉ "  A-->B -->|yes| C([d]) %% note".toList ∧
      swapEnds (swapEnds "  A-->B -->|yes| C([d]) %% note".toList) = "  A-->B -->|yes| C([d]) %% note".toList := by
  have hn : '\n' ∉ "  A-->B -->|yes| C([d]) %% note".toList := by decide
  have hread : Ends.ofLine? "  A-->B -->|yes| C([d]) %% note".toList =
      some ⟨"  ".toList, "A-->B".toList, " -->|yes| ".toList, "C([d])".toList, " %% note".toList⟩ := by
    decide +kernel
  have hjoint : Ends.IsJoint " -->|yes| ".toList := by
    refine ⟨[' '], "-->".toList, some "yes".toList, [' '], isGap_space, by decide, ?_, isGap_space, by decide⟩
    simp
  have hshape : Ends.IsLeadingShape "([d])".toList " -->|yes| A-->B %% note".toList := by
    refine Or.inl ⟨'(', ['[', 'd'], [']', ')'], by decide, IsShape.bracket (by decide) ?_ ?_ ?_ fun c hc => ?_⟩
    · simp [isCloser]
    · simp
    · simp [isCloser]
    · cases hc
      decide
  have hnames : ∀ c ∈ Ends.nameOf "A-->B".toList ++ Ends.nameOf "C([d])".toList, isBlank c = false := by
    have hall : (Ends.nameOf "A-->B".toList ++ Ends.nameOf "C([d])".toList).all (!isBlank ·) = true := by decide
    intro c hc
    simpa using List.all_eq_true.mp hall c hc
  refine ⟨hn, (swapEnds_swapEnds_iff hn).mpr fun e he ht => Or.inl (Or.inl ?_)⟩
  obtain rfl := Option.some.inj (hread.symm.trans ((Ends.ofLine?_eq_some_iff hn).mpr ⟨ht.symm, he⟩))
  exact {
    before := he.before
    joint := hjoint
    names := hnames
    target_name := by decide
    target_end := ⟨'C', by decide, by decide⟩
    target_shape := hshape
    next_arrow := fun h => absurd h (by decide)
    source_start := ⟨'A', by decide, by decide⟩
    source_name := by decide
    source_shape := isLeadingShape_nil fun c hc => by cases hc; rfl
    source_end := fun _ c hc => by cases hc; rfl }

/-- What stands behind a colon goes with the source, but cannot go with the target: it comes to belong to the other
node. -/
theorem swap_twice_moves_class :
    swapEnds "A:::hot --> B".toList = "B --> A:::hot".toList ∧
      swapEnds (swapEnds "A:::hot --> B".toList) = "A --> B:::hot".toList ∧
      swapEnds (swapEnds "A:::hot --> B".toList) ≠ "A:::hot --> B".toList := by
  decide +kernel

end Twice

/-! ## Nodes -/

namespace Ends

/-- A node that can be at either end of an edge: a name for a source and a target, and perhaps a shape. -/
def IsNode (node : Text) : Prop :=
  ∃ name shape, node = name ++ shape ∧ EndsIn isSourceCharacter isSourceEnd name ∧
    (∀ c, name.head? = some c → isTargetStart c = true) ∧ (∀ c ∈ name, isTargetCharacter c = true) ∧
    (shape = [] ∨ ∃ c label closers, shape = [c] ++ label ++ closers ∧ IsShape [c] label closers [])

/-- No node goes on in a text. -/
def IsApart (behind : Text) : Prop :=
  ∀ c, behind.head? = some c → isTargetCharacter c = false ∧ isOpener c = false

end Ends

section Nodes

variable {node shape behind : Text}

theorem isTargetCharacter_of_isCloser {c : Char} (h : isCloser c = true) : Ends.isTargetCharacter c = true := by
  simp only [isCloser, Bool.or_eq_true, beq_iff_eq] at h
  rcases h with (rfl | rfl) | rfl <;> decide

theorem Ends.IsApart.closer (h : Ends.IsApart behind) {c : Char} (hc : behind.head? = some c) : isCloser c = false := by
  refine Bool.eq_false_iff.mpr fun hcl => ?_
  have htarget := (h c hc).1
  rw [isTargetCharacter_of_isCloser hcl] at htarget
  cases htarget

theorem Ends.isApart_of_blank {c : Char} {rest : Text} (hc : isBlank c = true) : Ends.IsApart (c :: rest) := by
  intro d hd
  cases hd
  refine ⟨by simp [Ends.isTargetCharacter, hc], Bool.eq_false_iff.mpr fun ho => ?_⟩
  rw [isBlank_of_isOpener ho] at hc
  cases hc

theorem isLeadingShape_of_isApart (hb : Ends.IsApart behind)
    (h : shape = [] ∨ ∃ c label closers, shape = [c] ++ label ++ closers ∧ IsShape [c] label closers []) :
    Ends.IsLeadingShape shape behind := by
  rcases h with rfl | ⟨c, label, closers, rfl, hs⟩
  · exact isLeadingShape_nil fun c hc => (hb c hc).2
  · exact Or.inl ⟨c, label, closers, rfl, hs.followed fun _ b _ hbb => Or.inr (Or.inl (hb.closer hbb))⟩

theorem Ends.IsNode.isTarget (h : Ends.IsNode node) (hb : Ends.IsApart behind) : Ends.IsTarget node behind := by
  obtain ⟨name, shape, rfl, hends, hstart, hname, hshape⟩ := h
  obtain ⟨c, name, rfl⟩ := List.exists_cons_of_ne_nil hends.ne_nil
  refine ⟨c, name, shape, rfl, hstart c rfl, fun d hd => hname d (List.mem_cons_of_mem c hd), fun d hd => ?_,
    isLeadingShape_of_isApart hb hshape⟩
  rcases hshape with rfl | ⟨o, label, closers, rfl, hs⟩
  · exact (hb d hd).1
  · cases hd
    cases hs with
    | bracket ho _ _ _ _ => simp [Ends.isTargetCharacter, ho]

/-- Blanks keep the name of a source from going on to a later arrow. -/
theorem Ends.IsNode.isSource (h : Ends.IsNode node) {c : Char} {rest : Text} (hc : isBlank c = true) :
    Ends.IsSource node (c :: rest) := by
  obtain ⟨name, shape, rfl, hends, _, _, hshape⟩ := h
  refine ⟨name, shape, rfl, hends, isLeadingShape_of_isApart (Ends.isApart_of_blank hc) hshape,
    fun more rest' he hmore => ?_⟩
  obtain ⟨d, more, rfl⟩ := List.exists_cons_of_ne_nil hmore.ne_nil
  have hd := hmore.head
  rcases hshape with rfl | ⟨o, label, closers, rfl, hs⟩
  · obtain rfl := (List.cons.inj he).1
    rw [Ends.isSourceCharacter, hc] at hd
    cases hd
  · obtain rfl := (List.cons.inj he).1
    cases hs with
    | bracket ho _ _ _ _ => simp [Ends.isSourceCharacter, ho] at hd

/-- Two nodes that a joint with a blank at its start stands between are the ends of an edge. -/
theorem Ends.isEdge_of_isNode (hbefore : IsGap e.before) (hs : Ends.IsNode e.source) (ht : Ends.IsNode e.target)
    (hj : Ends.IsJoint e.between) (hblank : ∃ c rest, e.between = c :: rest ∧ isBlank c = true)
    (hb : Ends.IsApart e.behind) : e.IsEdge := by
  obtain ⟨c, rest, hbetween, hc⟩ := hblank
  refine ⟨hbefore, ?_, hj, ht.isTarget hb⟩
  rw [hbetween]
  exact hs.isSource hc

/-- Swapping an edge between two nodes exchanges them, and swapping it back restores it. -/
theorem swapEnds_nodes (hn : '\n' ∉ e.toText) (hbefore : IsGap e.before) (hs : Ends.IsNode e.source)
    (ht : Ends.IsNode e.target) (hj : Ends.IsJoint e.between)
    (hblank : ∃ c rest, e.between = c :: rest ∧ isBlank c = true) (hb : Ends.IsApart e.behind) :
    swapEnds e.toText = e.swap.toText ∧ swapEnds e.swap.toText = e.toText :=
  ⟨swapEnds_toText hn (Or.inl (Ends.isEdge_of_isNode hbefore hs ht hj hblank hb)),
    swapEnds_toText (newline_not_mem_swap hn) (Or.inl (Ends.isEdge_of_isNode hbefore ht hs hj hblank hb))⟩

end Nodes

end DiagramText
