import DiagramText.Proofs.Block.Stack

/-!
# Matched lines

Which lines open and close a block can be said without a stack: a line that ends a block is matched with the nearest
line above that opens one and is not matched yet.

- `Document.IsUnmatched` are the lines above a line that open a block and are not matched above it. They are the lines
  of the blocks on the stack (`isUnmatched_iff_exists`);
- two matched pairs are nested or disjoint (`pairs_nested_or_disjoint`);
- `enclosingBlock?_innermost`: the innermost block around a line is the matched pair around it that starts last.
-/

namespace DiagramText

open Text

namespace Document

/-- Line `s` lies above line `n` and opens a block, and no line above `n` is matched with it. A branch separator opens a
block where no line above it is unmatched. -/
def IsUnmatched (d : Document) (dialect : Dialect) : Nat → Nat → Prop
  | 0, _ => False
  | n + 1, s =>
    (s = n ∧ ∃ kind, LineKind.ofLine dialect (d.line n) = .blockStart kind ∧
      (kind = .and → ∀ t, ¬d.IsUnmatched dialect n t)) ∨
    (d.IsUnmatched dialect n s ∧
      ¬(LineKind.ofLine dialect (d.line n) = .blockEnd ∧ ∀ t, d.IsUnmatched dialect n t → t ≤ s))

/-- Line `s` opens a block. -/
def IsOpener (d : Document) (dialect : Dialect) (s : Nat) : Prop :=
  ∃ kind, LineKind.ofLine dialect (d.line s) = .blockStart kind ∧
    (kind = .and → ∀ t, ¬d.IsUnmatched dialect s t)

/-- Line `e` is the end of a block, and line `s` is the nearest unmatched line above it. -/
structure IsPair (d : Document) (dialect : Dialect) (s e : Nat) : Prop where
  closer : LineKind.ofLine dialect (d.line e) = .blockEnd
  unmatched : d.IsUnmatched dialect e s
  nearest : ∀ t, d.IsUnmatched dialect e t → t ≤ s

/-- Of the matched pairs around line `n`, a block starts last and ends first. -/
structure IsInnermost (d : Document) (dialect : Dialect) (n : Nat) (b : Block) : Prop where
  pair : d.IsPair dialect b.line b.lastLine
  first : b.line < n
  last : n < b.lastLine
  greatest : ∀ s e, d.IsPair dialect s e → s < n → n < e → s ≤ b.line
  smallest : ∀ s e, d.IsPair dialect s e → s < n → n < e → b.lastLine ≤ e
  indent : b.indent = indentation (d.line b.line)
  kind : LineKind.ofLine dialect (d.line b.line) = .blockStart b.kind

end Document

variable {d : Document} {dialect : Dialect} {n s e : Nat} {b b' : Block}

/-! ## Unmatched lines -/

section Unmatched

theorem isUnmatched_succ_iff : d.IsUnmatched dialect (n + 1) s ↔
    (s = n ∧ d.IsOpener dialect s) ∨ (d.IsUnmatched dialect n s ∧ ¬d.IsPair dialect s n) := by
  rw [Document.IsUnmatched]
  refine or_congr ?_ ?_
  · refine and_congr_right ?_
    rintro rfl
    rfl
  · refine and_congr_right fun h => not_congr ?_
    constructor
    · rintro ⟨hend, hnear⟩
      exact ⟨hend, h, hnear⟩
    · intro hp
      exact ⟨hp.closer, hp.nearest⟩

theorem lt_of_isUnmatched (h : d.IsUnmatched dialect n s) : s < n := by
  induction n with
  | zero => exact h.elim
  | succ n ih =>
    rcases isUnmatched_succ_iff.mp h with ⟨rfl, _⟩ | ⟨h, _⟩
    · exact Nat.lt_succ_self s
    · exact Nat.lt_succ_of_lt (ih h)

/-- A line is unmatched where it opens a block and no line above is matched with it. -/
theorem isUnmatched_iff : d.IsUnmatched dialect n s ↔
    s < n ∧ d.IsOpener dialect s ∧ ∀ e, e < n → ¬d.IsPair dialect s e := by
  induction n with
  | zero =>
    refine iff_of_false id ?_
    rintro ⟨h, _⟩
    exact absurd h (Nat.not_lt_zero s)
  | succ n ih =>
    rw [isUnmatched_succ_iff, ih]
    constructor
    · rintro (⟨rfl, hopen⟩ | ⟨⟨hlt, hopen, hno⟩, hn⟩)
      · refine ⟨Nat.lt_succ_self s, hopen, fun e he hp => ?_⟩
        have := lt_of_isUnmatched hp.unmatched
        omega
      · refine ⟨Nat.lt_succ_of_lt hlt, hopen, fun e he => ?_⟩
        rcases Nat.lt_succ_iff_lt_or_eq.mp he with he | rfl
        · exact hno e he
        · exact hn
    · rintro ⟨hlt, hopen, hno⟩
      rcases Nat.lt_succ_iff_lt_or_eq.mp hlt with hlt | rfl
      · exact Or.inr ⟨⟨hlt, hopen, fun e he => hno e (Nat.lt_succ_of_lt he)⟩, hno n (Nat.lt_succ_self n)⟩
      · exact Or.inl ⟨rfl, hopen⟩

/-- The unmatched lines are those of the blocks on the stack. -/
theorem isUnmatched_iff_exists : d.IsUnmatched dialect n s ↔ ∃ o ∈ d.openedBefore dialect n, o.line = s := by
  induction n generalizing s with
  | zero => exact iff_of_false id (by simp [Document.openedBefore])
  | succ n ih =>
    have hnil : (∀ t, ¬d.IsUnmatched dialect n t) ↔ d.openedBefore dialect n = [] := by
      simp [ih, List.eq_nil_iff_forall_not_mem]
    rw [Document.IsUnmatched, hnil]
    rcases openedBefore_cases d dialect n with ⟨kind, hk, hand, he⟩ | ⟨hend, he⟩ | ⟨hend, hno, he⟩
    · have hopen : ∃ kind', LineKind.ofLine dialect (d.line n) = .blockStart kind' ∧
          (kind' = .and → d.openedBefore dialect n = []) := ⟨kind, hk, hand⟩
      have hend : LineKind.ofLine dialect (d.line n) ≠ .blockEnd := by simp [hk]
      simp only [hopen, hend, ih, he, List.mem_cons, exists_eq_or_imp, and_true, false_and, not_false_iff]
      exact or_congr_left eq_comm
    · simp only [hend, reduceCtorEq, false_and, exists_false, and_false, false_or, true_and, ih, he,
        mem_tail_openedBefore_iff]
      constructor
      · rintro ⟨⟨o, ho, rfl⟩, hfar⟩
        obtain ⟨t, ht⟩ := not_forall.mp hfar
        obtain ⟨⟨p, hp, rfl⟩, hlt⟩ := Classical.not_imp.mp ht
        exact ⟨o, ⟨ho, p, hp, Nat.lt_of_not_le hlt⟩, rfl⟩
      · rintro ⟨o, ⟨ho, p, hp, hlt⟩, rfl⟩
        exact ⟨⟨o, ho, rfl⟩, fun hnear => absurd (hnear p.line ⟨p, hp, rfl⟩) (Nat.not_le_of_lt hlt)⟩
    · have hopen : ¬∃ kind', LineKind.ofLine dialect (d.line n) = .blockStart kind' ∧
          (kind' = .and → d.openedBefore dialect n = []) := by
        rintro ⟨kind, hk, hand⟩
        exact (hno kind hk).2 (hand (hno kind hk).1)
      simp only [hopen, hend, ih, he, and_false, false_or, false_and, not_false_iff, and_true]

end Unmatched

/-! ## Pairs -/

section Pairs

/-- The matched pairs are the first and the last lines of the closed blocks. -/
theorem isPair_iff_exists : d.IsPair dialect s e ↔
    ∃ b ∈ d.closedBlocks dialect, b.line = s ∧ b.lastLine = e := by
  constructor
  · intro hp
    obtain ⟨o, ho, rfl⟩ := isUnmatched_iff_exists.mp hp.unmatched
    obtain ⟨p, rest, hs⟩ := List.exists_cons_of_ne_nil (List.ne_nil_of_mem ho)
    have hhead : (d.openedBefore dialect e).head? = some p := by rw [hs, List.head?_cons]
    have hpo : p.line = o.line := Nat.le_antisymm
      (hp.nearest p.line (isUnmatched_iff_exists.mpr ⟨p, List.mem_of_mem_head? hhead, rfl⟩))
      (line_le_of_head hhead ho)
    exact ⟨⟨p, e⟩, mem_closedBlocks_iff.mpr ⟨hp.closer, hhead⟩, hpo, rfl⟩
  · rintro ⟨b, hb, rfl, rfl⟩
    refine ⟨ofLine_lastLine hb, isUnmatched_iff_exists.mpr ⟨b.toBlockOpening, opening_mem_openedBefore hb, rfl⟩, ?_⟩
    intro t ht
    obtain ⟨o, ho, rfl⟩ := isUnmatched_iff_exists.mp ht
    exact line_le_of_head (mem_closedBlocks_iff.mp hb).2 ho

/-- Of two blocks, the one that starts first closes before the other one starts or behind its end. -/
theorem lastLine_lt_of_line_lt (hb : b ∈ d.closedBlocks dialect) (hb' : b' ∈ d.closedBlocks dialect)
    (h : b.line < b'.line) : b.lastLine < b'.line ∨ b'.lastLine < b.lastLine := by
  rcases Nat.lt_trichotomy b.lastLine b'.line with hlt | he | hlt
  · exact Or.inl hlt
  · -- No line closes a block and opens another one.
    have hstart := (opening_of_mem_openedBefore (opening_mem_openedBefore hb')).2
    rw [← he, ofLine_lastLine hb] at hstart
    cases hstart
  · right
    have hmem := mem_openedBefore_of_closed hb h (Nat.le_of_lt hlt)
    apply lt_lastLine_of_mem hb
    rw [openedBefore_succ_of_end (ofLine_lastLine hb'), openedBefore_lastLine hb']
    exact hmem

theorem pairs_nested_or_disjoint {s' e' : Nat} (h : d.IsPair dialect s e) (h' : d.IsPair dialect s' e') :
    (s = s' ∧ e = e') ∨ (s < s' ∧ e' < e) ∨ (s' < s ∧ e < e') ∨ e < s' ∨ e' < s := by
  obtain ⟨b, hb, rfl, rfl⟩ := isPair_iff_exists.mp h
  obtain ⟨b', hb', rfl, rfl⟩ := isPair_iff_exists.mp h'
  rcases Nat.lt_trichotomy b.line b'.line with hlt | he | hlt
  · have := lastLine_lt_of_line_lt hb hb' hlt
    omega
  · rw [block_eq_of_line_eq hb hb' he]
    exact Or.inl ⟨rfl, rfl⟩
  · have := lastLine_lt_of_line_lt hb' hb hlt
    omega

end Pairs

/-! ## The innermost block -/

section Innermost

theorem mem_openedAround_of_encloses (hb : b ∈ d.closedBlocks dialect) (hfirst : b.line < n) (hlast : n < b.lastLine) :
    b.toBlockOpening ∈ d.openedAround dialect n := by
  unfold Document.openedAround
  split
  · next hend =>
    rw [← openedBefore_succ_of_end hend]
    exact mem_openedBefore_of_closed hb (Nat.lt_succ_of_lt hfirst) hlast
  · exact mem_openedBefore_of_closed hb hfirst (Nat.le_of_lt hlast)

theorem line_le_of_head_around {o p : BlockOpening} (hp : (d.openedAround dialect n).head? = some p)
    (ho : o ∈ d.openedAround dialect n) : o.line ≤ p.line := by
  rcases openedAround_eq_or d dialect n with he | he <;> rw [he] at hp ho <;> exact line_le_of_head hp ho

theorem enclosingBlock?_eq_none_iff : d.enclosingBlock? dialect n = none ↔
    ¬∃ s e, d.IsPair dialect s e ∧ s < n ∧ n < e := by
  rw [Document.enclosingBlock?, List.find?_eq_none]
  constructor
  · rintro hno ⟨s, e, hp, hs, he⟩
    obtain ⟨b, hb, rfl, rfl⟩ := isPair_iff_exists.mp hp
    exact hno b hb (by simp [Block.encloses, hs, he])
  · intro hno b hb henc
    simp only [Block.encloses, Bool.and_eq_true, decide_eq_true_iff] at henc
    exact hno ⟨b.line, b.lastLine, isPair_iff_exists.mpr ⟨b, hb, rfl, rfl⟩, henc⟩

theorem isInnermost_of_enclosingBlock? (h : d.enclosingBlock? dialect n = some b) : d.IsInnermost dialect n b := by
  obtain ⟨hb, hhead⟩ := enclosingBlock?_eq_some_iff.mp h
  have hmem := List.mem_of_mem_head? hhead
  have hlast := lt_lastLine_of_mem hb (mem_openedBefore_succ_of_around hmem)
  obtain ⟨hindent, hkind⟩ := opening_of_mem_openedBefore (opening_mem_openedBefore hb)
  have hgreatest : ∀ s e, d.IsPair dialect s e → s < n → n < e → s ≤ b.line := by
    intro s e hp hs he
    obtain ⟨b', hb', rfl, rfl⟩ := isPair_iff_exists.mp hp
    exact line_le_of_head_around hhead (mem_openedAround_of_encloses hb' hs he)
  have hpair : d.IsPair dialect b.line b.lastLine := isPair_iff_exists.mpr ⟨b, hb, rfl, rfl⟩
  have hfirst := line_lt_of_mem_openedBefore (mem_openedBefore_of_around hmem)
  refine ⟨hpair, hfirst, hlast, hgreatest, ?_, hindent, hkind⟩
  intro s e hp hs he
  have hle := hgreatest s e hp hs he
  have := pairs_nested_or_disjoint hpair hp
  omega

theorem enclosingBlock?_of_isInnermost (h : d.IsInnermost dialect n b) : d.enclosingBlock? dialect n = some b := by
  cases hb : d.enclosingBlock? dialect n with
  | none => exact absurd ⟨b.line, b.lastLine, h.pair, h.first, h.last⟩ (enclosingBlock?_eq_none_iff.mp hb)
  | some b' =>
    have h' := isInnermost_of_enclosingBlock? hb
    have hline := Nat.le_antisymm (h.greatest _ _ h'.pair h'.first h'.last) (h'.greatest _ _ h.pair h.first h.last)
    have hlast := Nat.le_antisymm (h.smallest _ _ h'.pair h'.first h'.last) (h'.smallest _ _ h.pair h.first h.last)
    have hindent : b'.indent = b.indent := by rw [h.indent, h'.indent, hline]
    have hkind : b'.kind = b.kind := by
      have hk := h.kind
      rw [← hline, h'.kind] at hk
      exact LineKind.blockStart.inj hk
    obtain ⟨⟨line, indent, kind⟩, last⟩ := b
    obtain ⟨⟨line', indent', kind'⟩, last'⟩ := b'
    simp only at hline hlast hindent hkind
    rw [hline, hlast, hindent, hkind]

/-- **The innermost block around a line.** Two matched pairs are nested or disjoint. There is no block around a line
where no matched pair is, and otherwise the block is the pair around the line that starts last, which is also the one
that ends first, with the indentation and the kind of its first line. A line that opens a block and is not matched at
the end of the document is not the first line of it, and a line that ends no matched pair is not its last line. -/
theorem enclosingBlock?_innermost (d : Document) (dialect : Dialect) :
    (∀ s e s' e', d.IsPair dialect s e → d.IsPair dialect s' e' →
      (s = s' ∧ e = e') ∨ (s < s' ∧ e' < e) ∨ (s' < s ∧ e < e') ∨ e < s' ∨ e' < s) ∧
    ∀ n, (d.enclosingBlock? dialect n = none ↔ ¬∃ s e, d.IsPair dialect s e ∧ s < n ∧ n < e) ∧
      ∀ b, (d.enclosingBlock? dialect n = some b ↔ d.IsInnermost dialect n b) ∧
        (d.enclosingBlock? dialect n = some b →
          ¬d.IsUnmatched dialect (d.lineCount + 1) b.line ∧ ∃ s, d.IsPair dialect s b.lastLine) := by
  refine ⟨fun _ _ _ _ => pairs_nested_or_disjoint, fun n => ⟨enclosingBlock?_eq_none_iff, fun b => ⟨?_, ?_⟩⟩⟩
  · exact ⟨isInnermost_of_enclosingBlock?, enclosingBlock?_of_isInnermost⟩
  · intro h
    have hpair := (isInnermost_of_enclosingBlock? h).pair
    refine ⟨fun hopen => ?_, b.line, hpair⟩
    have hle := (bounds_of_kind hpair.closer LineKind.noConfusion).2
    exact (isUnmatched_iff.mp hopen).2.2 b.lastLine (Nat.lt_succ_of_le hle) hpair

end Innermost

end DiagramText
