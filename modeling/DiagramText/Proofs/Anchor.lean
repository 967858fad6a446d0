import DiagramText.Insertion
import DiagramText.Proofs.Block.Stack
import DiagramText.Proofs.Document

/-!
# Anchors

An anchor is a line of the document, with the indentation of a line or one unit more (`Anchor.StandsIn`):
`standsIn_nodeAnchor` and `standsIn_elementAnchor` say so of what the searches find. The last participant is the last
line that starts with the keyword of a role and a blank (`lastParticipant?_eq_some_iff`).

The search for the last node counts how many subgraphs are open since its first line. The count is the height of the
stack above the blocks that are open all along (`lastNodeIn_eq`), so that a node goes where just these are open
(`openedBefore_nodeAnchor_of_block`, `openedBefore_nodeAnchor_of_none`).
-/

namespace DiagramText

open Text

variable {d : Document} {a : Anchor} {n first last : Nat}

/-- The last of some numbers that passes a test. -/
theorem find?_reverse_range'_eq_some_iff {p : Nat → Bool} {first k : Nat} :
    (List.range' first k).reverse.find? p = some n ↔
      p n = true ∧ first ≤ n ∧ n < first + k ∧ ∀ m, n < m → m < first + k → p m = false := by
  induction k with
  | zero =>
    refine iff_of_false (fun h => by cases h) ?_
    rintro ⟨-, hfirst, hlast, -⟩
    omega
  | succ k ih =>
    rw [List.range'_1_concat, List.reverse_append, List.reverse_singleton, List.singleton_append, List.find?_cons]
    cases hp : p (first + k) with
    | true =>
      constructor
      · intro h
        cases h
        exact ⟨hp, by omega, by omega, fun m h1 h2 => by omega⟩
      · rintro ⟨-, -, hlast, hno⟩
        have hn : ¬n < first + k := fun hlt => by
          rw [hno (first + k) hlt (by omega)] at hp
          cases hp
        exact congrArg some (by omega)
    | false =>
      refine ih.trans ⟨?_, ?_⟩
      · rintro ⟨hn, hfirst, hlast, hno⟩
        refine ⟨hn, hfirst, by omega, fun m h1 h2 => ?_⟩
        rcases Nat.lt_or_eq_of_le (show m ≤ first + k by omega) with h2 | rfl
        · exact hno m h1 h2
        · exact hp
      · rintro ⟨hn, hfirst, hlast, hno⟩
        have hne : n ≠ first + k := by
          rintro rfl
          rw [hp] at hn
          cases hn
        exact ⟨hn, hfirst, by omega, fun m h1 h2 => hno m h1 (by omega)⟩

theorem find?_reverse_range'_eq_none_iff {p : Nat → Bool} {first k : Nat} :
    (List.range' first k).reverse.find? p = none ↔ ∀ n, first ≤ n → n < first + k → p n = false := by
  simp only [List.find?_eq_none, List.mem_reverse, List.mem_range'_1, Bool.not_eq_true, and_imp]

/-! ## The last node -/

/-- The last node of some lines is that found before, or is declared on one of the lines and has its indentation. -/
theorem lastNodeIn_eq_some {nested : Nat} {found : Option Anchor} {entries : List (Nat × Text)}
    (h : lastNodeIn nested found entries = some a) :
    found = some a ∨ ∃ line, (a.line, line) ∈ entries ∧ LineKind.ofLine .flowchart line = .declaration ∧
      a.indent = indentation line := by
  induction entries generalizing nested found with
  | nil => exact Or.inl h
  | cons entry rest ih =>
    obtain ⟨n, line⟩ := entry
    have hrest : ∀ {nested' found'}, lastNodeIn nested' found' rest = some a → found' = some a ∨
        ∃ line', (a.line, line') ∈ (n, line) :: rest ∧ LineKind.ofLine .flowchart line' = .declaration ∧
          a.indent = indentation line' := by
      intro nested' found' h'
      rcases ih h' with hf | ⟨line', hmem, hkind, hindent⟩
      · exact Or.inl hf
      · exact Or.inr ⟨line', List.mem_cons_of_mem _ hmem, hkind, hindent⟩
    rw [lastNodeIn] at h
    cases hk : LineKind.ofLine .flowchart line with
    | declaration =>
      rw [hk] at h
      rcases hrest h with hf | hf
      · split at hf
        · cases hf
          exact Or.inr ⟨line, List.mem_cons_self, hk, rfl⟩
        · exact Or.inl hf
      · exact Or.inr hf
    | _ =>
      rw [hk] at h
      exact hrest h

theorem lastNode?_eq_some (h : d.lastNode? first last = some a) :
    first ≤ a.line ∧ a.line ≤ last ∧ 1 ≤ a.line ∧ a.line ≤ d.lineCount ∧
      LineKind.ofLine .flowchart (d.line a.line) = .declaration ∧ a.indent = indentation (d.line a.line) := by
  rcases lastNodeIn_eq_some h with hf | ⟨line, hmem, hkind, hindent⟩
  · cases hf
  · obtain ⟨hmem, hrange⟩ := List.mem_filter.mp hmem
    obtain ⟨h1, h2, rfl⟩ := mem_numbered.mp hmem
    simp only [Bool.and_eq_true, decide_eq_true_iff] at hrange
    exact ⟨hrange.1, hrange.2, h1, h2, hkind, hindent⟩

/-! ## The last participant -/

section LastParticipant

theorem lastParticipant?_eq (d : Document) : d.lastParticipant? =
    ((List.range' 1 d.lineCount).reverse.find? fun n => startsWithRole (d.line n)).map fun n =>
      ⟨n, indentation (d.line n)⟩ := by
  rw [Document.lastParticipant?, numbered_eq, ← List.map_reverse, List.find?_map, Option.map_map]
  rfl

theorem bounds_of_startsWithRole (h : startsWithRole (d.line n) = true) : 1 ≤ n ∧ n ≤ d.lineCount := by
  have hempty : d.line n ≠ [] := by
    intro hnil
    rw [hnil] at h
    cases h
  constructor
  · rw [Nat.one_le_iff_ne_zero]
    rintro rfl
    exact hempty rfl
  · exact Nat.le_of_not_lt fun hlt => hempty (line_eq_nil hlt)

theorem lastParticipant?_eq_none_iff : d.lastParticipant? = none ↔ ∀ n, startsWithRole (d.line n) = false := by
  rw [lastParticipant?_eq, Option.map_eq_none_iff, find?_reverse_range'_eq_none_iff]
  constructor
  · intro h n
    rw [Bool.eq_false_iff]
    intro hrole
    obtain ⟨hfirst, hlast⟩ := bounds_of_startsWithRole hrole
    rw [h n hfirst (by omega)] at hrole
    cases hrole
  · exact fun h n _ _ => h n

/-- The anchor of a new participant is the last line that starts with a role. -/
theorem lastParticipant?_eq_some_iff : d.lastParticipant? = some a ↔ startsWithRole (d.line a.line) = true ∧
    a.indent = indentation (d.line a.line) ∧ ∀ n, a.line < n → startsWithRole (d.line n) = false := by
  rw [lastParticipant?_eq, Option.map_eq_some_iff]
  constructor
  · rintro ⟨n, hn, rfl⟩
    obtain ⟨hrole, -, -, hno⟩ := find?_reverse_range'_eq_some_iff.mp hn
    refine ⟨hrole, rfl, fun m hm => Bool.eq_false_iff.mpr fun hrole' => ?_⟩
    have hle := (bounds_of_startsWithRole hrole').2
    rw [hno m hm (by omega)] at hrole'
    cases hrole'
  · rintro ⟨hrole, hindent, hno⟩
    obtain ⟨hfirst, hlast⟩ := bounds_of_startsWithRole hrole
    refine ⟨a.line, find?_reverse_range'_eq_some_iff.mpr ⟨hrole, hfirst, by omega, fun m hm _ => hno m hm⟩, ?_⟩
    rw [← hindent]

end LastParticipant

/-! ## Anchors in a document -/

/-- An anchor is a line of the document, or the first line where there is none, with the indentation of a line or one
unit more. Line 0 is empty, so one unit alone is such an indentation. -/
structure Anchor.StandsIn (a : Anchor) (d : Document) (unit : Text) : Prop where
  first : 1 ≤ a.line
  last : a.line ≤ max 1 d.lineCount
  indent : ∃ k, a.indent = indentation (d.line k) ∨ a.indent = indentation (d.line k) ++ unit

theorem standsIn_of_line {unit : Text} (hfirst : 1 ≤ a.line) (hlast : a.line ≤ d.lineCount)
    (hindent : a.indent = indentation (d.line a.line) ∨ a.indent = indentation (d.line a.line) ++ unit) :
    a.StandsIn d unit :=
  ⟨hfirst, Nat.le_trans hlast (Nat.le_max_right 1 _), a.line, hindent⟩

theorem standsIn_first (d : Document) (unit : Text) : (⟨1, unit⟩ : Anchor).StandsIn d unit :=
  ⟨Nat.le_refl 1, Nat.le_max_left 1 _, 0, Or.inr rfl⟩

/-- The indentation of an anchor consists of characters of indentations and of the unit. -/
theorem Anchor.StandsIn.forall_mem {unit : Text} {p : Char → Prop} (h : a.StandsIn d unit)
    (hd : ∀ k, ∀ c ∈ indentation (d.line k), p c) (hunit : ∀ c ∈ unit, p c) : ∀ c ∈ a.indent, p c := by
  intro c hc
  obtain ⟨k, he | he⟩ := h.indent <;> rw [he] at hc
  · exact hd k c hc
  · rcases List.mem_append.mp hc with hc | hc
    · exact hd k c hc
    · exact hunit c hc

/-- The nearest indentation is that of a line, or the fallback. -/
theorem nearestIndentation_eq_or (d : Document) (n : Nat) (fallback : Text) :
    d.nearestIndentation n fallback = fallback ∨
      ∃ line ∈ d.lines, d.nearestIndentation n fallback = indentation line := by
  unfold Document.nearestIndentation
  cases h : ((d.lines.take n).reverse.map indentation).find? (· ≠ []) with
  | none => exact Or.inl rfl
  | some indent =>
    obtain ⟨line, hline, rfl⟩ := List.mem_map.mp (List.mem_of_find?_eq_some h)
    exact Or.inr ⟨line, List.mem_of_mem_take (List.mem_reverse.mp hline), rfl⟩

/-! ## Where elements go -/

/-- Where a new participant or a new node goes. -/
def elementAnchor (d : Document) (n : Nat) (context : EditContext) : Anchor :=
  match context.dialect with
  | .sequence => d.lastParticipant?.getD ⟨1, context.indentUnit⟩
  | .flowchart => nodeAnchor d n context.indentUnit

section Elements

variable {b : Block} {unit : Text} {context : EditContext}

theorem nodeAnchor_of_block (hb : d.enclosingSubgraph? n = some b) : nodeAnchor d n unit =
    (d.lastNode? (b.line + 1) (b.lastLine - 1)).getD ⟨b.line, b.indent ++ unit⟩ := by
  rw [nodeAnchor, hb]

theorem nodeAnchor_of_none (hb : d.enclosingSubgraph? n = none) :
    nodeAnchor d n unit = (d.lastNode? 2 d.lineCount).getD ⟨1, unit⟩ := by
  rw [nodeAnchor, hb]

/-- A subgraph has its lines in the document, and the indentation of the first of them. -/
theorem lines_of_enclosingSubgraph? (hb : d.enclosingSubgraph? n = some b) :
    1 ≤ b.line ∧ b.line < b.lastLine ∧ b.lastLine ≤ d.lineCount ∧ b.indent = indentation (d.line b.line) := by
  obtain ⟨hclosed, -⟩ := enclosingBlock?_eq_some_iff.mp hb
  obtain ⟨hfirst, hlast⟩ := bounds_of_closed hclosed
  have hindent := (opening_of_mem_openedBefore (opening_mem_openedBefore hclosed)).1
  exact ⟨hfirst, line_lt_lastLine hclosed, hlast, hindent⟩

/-- Where a node goes is an anchor. -/
theorem standsIn_nodeAnchor (d : Document) (n : Nat) (unit : Text) : (nodeAnchor d n unit).StandsIn d unit := by
  have hnode : ∀ {first last a}, d.lastNode? first last = some a → a.StandsIn d unit := by
    intro first last a h
    obtain ⟨-, -, hfirst, hlast, -, hindent⟩ := lastNode?_eq_some h
    exact standsIn_of_line hfirst hlast (Or.inl hindent)
  cases hb : d.enclosingSubgraph? n with
  | some b =>
    obtain ⟨hfirst, hlt, hlast, hindent⟩ := lines_of_enclosingSubgraph? hb
    rw [nodeAnchor_of_block hb]
    cases ha : d.lastNode? (b.line + 1) (b.lastLine - 1) with
    | some a => exact hnode ha
    | none =>
      have hle : b.line ≤ d.lineCount := by omega
      exact standsIn_of_line hfirst hle (Or.inr (congrArg (· ++ unit) hindent))
  | none =>
    rw [nodeAnchor_of_none hb]
    cases ha : d.lastNode? 2 d.lineCount with
    | some a => exact hnode ha
    | none => exact standsIn_first d unit

/-- Where an element goes is an anchor. -/
theorem standsIn_elementAnchor (d : Document) (n : Nat) (context : EditContext) :
    (elementAnchor d n context).StandsIn d context.indentUnit := by
  unfold elementAnchor
  split
  · cases ha : d.lastParticipant? with
    | some a =>
      obtain ⟨hrole, hindent, -⟩ := lastParticipant?_eq_some_iff.mp ha
      obtain ⟨hfirst, hlast⟩ := bounds_of_startsWithRole hrole
      exact standsIn_of_line hfirst hlast (Or.inl hindent)
    | none => exact standsIn_first d context.indentUnit
  · exact standsIn_nodeAnchor d n context.indentUnit

end Elements

/-! ## The level of a new node -/

section Level

/-- Whether a line declares a node and just the given blocks are open before it. -/
def Document.declaresNodeOn (d : Document) (base : List BlockOpening) (n : Nat) : Bool :=
  LineKind.ofLine .flowchart (d.line n) = .declaration ∧ d.openedBefore .flowchart n = base

variable {b : Block} {base : List BlockOpening}

theorem declaresNodeOn_iff : d.declaresNodeOn base n = true ↔
    LineKind.ofLine .flowchart (d.line n) = .declaration ∧ d.openedBefore .flowchart n = base :=
  decide_eq_true_iff

/-- The lines that are searched, one after the other. -/
theorem lastNode?_eq (hfirst : 1 ≤ first) (hlast : last ≤ d.lineCount) (h : first ≤ last + 1) :
    d.lastNode? first last =
      lastNodeIn 0 none ((List.range' first (last + 1 - first)).map fun n => (n, d.line n)) := by
  have hrange : List.range' 1 d.lineCount = List.range' 1 (first - 1) ++
      (List.range' first (last + 1 - first) ++ List.range' (last + 1) (d.lineCount - last)) := by
    have hlen : d.lineCount = first - 1 + (last + 1 - first + (d.lineCount - last)) := by omega
    have hsearched : 1 + (first - 1) = first := by omega
    have hbehind : first + (last + 1 - first) = last + 1 := by omega
    rw [hlen, ← List.range'_append_1, ← List.range'_append_1, hsearched, hbehind, ← hlen]
  have hnone : ∀ {s k : Nat}, (∀ i, s ≤ i → i < s + k → ¬(first ≤ i ∧ i ≤ last)) →
      (List.range' s k).filter (fun i => first ≤ i && i ≤ last) = [] := by
    intro s k h
    refine List.filter_eq_nil_iff.mpr fun i hi => ?_
    obtain ⟨h1, h2⟩ := List.mem_range'_1.mp hi
    simpa using h i h1 h2
  have hall : (List.range' first (last + 1 - first)).filter (fun i => first ≤ i && i ≤ last) =
      List.range' first (last + 1 - first) := by
    refine List.filter_eq_self.mpr fun i hi => ?_
    obtain ⟨h1, h2⟩ := List.mem_range'_1.mp hi
    simp only [Bool.and_eq_true, decide_eq_true_iff]
    omega
  have hfilter : (List.range' 1 d.lineCount).filter (fun i => first ≤ i && i ≤ last) =
      List.range' first (last + 1 - first) := by
    rw [hrange, List.filter_append, List.filter_append, hall, hnone fun i h1 h2 => by omega,
      hnone fun i h1 h2 => by omega, List.nil_append, List.append_nil]
  rw [Document.lastNode?, numbered_eq, List.filter_map, ← hfilter]
  rfl

/-- The search finds the last line that declares a node where just the blocks are open that are open on all lines of the
search: the count of nested subgraphs is the height of the stack above them. -/
theorem lastNodeIn_eq {k nested : Nat} (found : Option Anchor)
    (hbase : ∀ i, n ≤ i → i ≤ n + k → base <:+ d.openedBefore .flowchart i)
    (hnested : (d.openedBefore .flowchart n).length = nested + base.length) :
    lastNodeIn nested found ((List.range' n k).map fun n => (n, d.line n)) =
      (((List.range' n k).reverse.find? (d.declaresNodeOn base)).map fun n =>
        ⟨n, indentation (d.line n)⟩).or found := by
  induction k generalizing n nested found with
  | zero => rfl
  | succ k ih =>
    have hrest := fun nested found => @ih (n + 1) nested found fun i h1 h2 => hbase i (by omega) (by omega)
    have hhere := hbase n (Nat.le_refl n) (by omega)
    have hnext := hbase (n + 1) (by omega) (by omega)
    have hother : LineKind.ofLine .flowchart (d.line n) ≠ .declaration → d.declaresNodeOn base n = false :=
      fun hk => Bool.eq_false_iff.mpr fun h => hk (declaresNodeOn_iff.mp h).1
    rw [List.range'_succ, List.map_cons, List.reverse_cons, List.find?_append, List.find?_singleton, Option.map_or,
      Option.or_assoc, lastNodeIn]
    rcases openedBefore_flowchart_cases d n with ⟨hk, he⟩ | ⟨hend, he⟩ | ⟨hend, hno, he⟩
    · rw [hother (by simp [hk]), hk]
      refine hrest _ _ ?_
      rw [he, List.length_cons, hnested]
      omega
    · rw [hother (by simp [hend]), hend]
      refine hrest _ _ ?_
      -- The search counts below zero as little as the stack does, since the blocks below stay open.
      have hle := hnext.length_le
      rw [he, List.length_tail] at hle ⊢
      omega
    · have hheight : (d.openedBefore .flowchart (n + 1)).length = nested + base.length := by rw [he, hnested]
      cases hk : LineKind.ofLine .flowchart (d.line n) with
      | blockEnd => exact absurd hk hend
      | blockStart kind => exact absurd hk (hno kind)
      | declaration =>
        refine (hrest _ _ hheight).trans (congrArg _ ?_)
        by_cases hzero : nested = 0
        · have hlen : base.length = (d.openedBefore .flowchart n).length := by omega
          rw [if_pos hzero, declaresNodeOn_iff.mpr ⟨hk, (hhere.eq_of_length hlen).symm⟩]
          rfl
        · have hdeeper : d.declaresNodeOn base n = false := by
            rw [Bool.eq_false_iff]
            intro h
            rw [(declaresNodeOn_iff.mp h).2] at hnested
            omega
          rw [if_neg hzero, hdeeper]
          rfl
      | _ =>
        rw [hother (by simp [hk])]
        exact hrest _ _ hheight

/-- Below the node that the search finds, just the blocks are open that are open on all lines of the search. -/
theorem openedBefore_of_lastNodeIn {k : Nat}
    (hbase : ∀ i, n ≤ i → i ≤ n + k → base <:+ d.openedBefore .flowchart i)
    (hopened : d.openedBefore .flowchart n = base)
    (h : lastNodeIn 0 none ((List.range' n k).map fun n => (n, d.line n)) = some a) :
    d.openedBefore .flowchart (a.line + 1) = base := by
  rw [lastNodeIn_eq none hbase (by rw [hopened, Nat.zero_add]), Option.or_none] at h
  obtain ⟨m, hm, rfl⟩ := Option.map_eq_some_iff.mp h
  obtain ⟨hkind, hopened⟩ := declaresNodeOn_iff.mp (List.find?_some hm)
  exact (openedBefore_succ_of_neutral (by simp [hkind]) (by simp [hkind])).trans hopened

/-- A node of a subgraph goes where just the subgraph, and what is around it, is open. -/
theorem openedBefore_nodeAnchor_of_block (unit : Text) (hb : d.enclosingSubgraph? n = some b) :
    b.line ≤ (nodeAnchor d n unit).line ∧ (nodeAnchor d n unit).line < b.lastLine ∧
      d.openedBefore .flowchart ((nodeAnchor d n unit).line + 1) =
        b.toBlockOpening :: d.openedBefore .flowchart b.line := by
  obtain ⟨hfirst, hlt, hlast, -⟩ := lines_of_enclosingSubgraph? hb
  have hclosed := (enclosingBlock?_eq_some_iff.mp hb).1
  have hbehind : d.openedBefore .flowchart (b.line + 1) = b.toBlockOpening :: d.openedBefore .flowchart b.line :=
    openedBefore_behind_opening (opening_mem_openedBefore hclosed)
  rw [nodeAnchor_of_block hb]
  cases ha : d.lastNode? (b.line + 1) (b.lastLine - 1) with
  | none => exact ⟨Nat.le_refl _, hlt, hbehind⟩
  | some a =>
    obtain ⟨h1, h2, -⟩ := lastNode?_eq_some ha
    rw [lastNode?_eq (by omega) (by omega) (by omega)] at ha
    refine ⟨Nat.le_of_succ_le h1, by rw [Option.getD_some]; omega, ?_⟩
    exact openedBefore_of_lastNodeIn
      (fun i hi hi' => suffix_openedBefore_of_closed hclosed (by omega) (by omega)) hbehind ha

/-- A node outside all subgraphs goes where none is open, as long as the first line opens none. -/
theorem openedBefore_nodeAnchor_of_none (unit : Text) (hb : d.enclosingSubgraph? n = none)
    (htop : d.openedBefore .flowchart 2 = []) (hlines : 1 ≤ d.lineCount) :
    d.openedBefore .flowchart ((nodeAnchor d n unit).line + 1) = [] := by
  rw [nodeAnchor_of_none hb]
  cases ha : d.lastNode? 2 d.lineCount with
  | none => exact htop
  | some a =>
    rw [lastNode?_eq (by omega) (Nat.le_refl _) (by omega)] at ha
    exact openedBefore_of_lastNodeIn (fun i _ _ => List.nil_suffix) htop ha

end Level

end DiagramText
