import DiagramText.Proofs.Anchor

/-!
# The last node of a subgraph

The last node between the first and the last line of a subgraph can be said by the innermost subgraph around each line
alone, without the count of nested subgraphs that the search keeps: it is the last line there that declares a node and
has just this subgraph around it (`lastNode?_of_enclosingSubgraph?`). All lines of a closed subgraph have it on the
stack (`suffix_openedBefore_of_closed`), so the count, which starts within the document, is never cut off below it.
-/

namespace DiagramText

open Text

/-- Line `n` lies within a subgraph and declares a node there, outside the subgraphs within it. -/
structure Document.DeclaresNodeIn (d : Document) (b : Block) (n : Nat) : Prop where
  first : b.line < n
  last : n < b.lastLine
  declaration : LineKind.ofLine .flowchart (d.line n) = .declaration
  innermost : d.enclosingSubgraph? n = some b

variable {d : Document} {b : Block} {a : Anchor} {n m : Nat}

section Subgraph

variable (hb : b ∈ d.closedBlocks .flowchart)

include hb

/-- A declared node has a subgraph around it where the subgraph is on top of the stack. -/
theorem declaresNodeIn_iff : d.DeclaresNodeIn b n ↔
    d.declaresNodeOn (b.toBlockOpening :: d.openedBefore .flowchart b.line) n = true ∧ b.line < n ∧ n < b.lastLine := by
  have haround : LineKind.ofLine .flowchart (d.line n) = .declaration →
      d.openedAround .flowchart n = d.openedBefore .flowchart n := fun hk => if_neg (by simp [hk])
  rw [declaresNodeOn_iff]
  constructor
  · rintro ⟨hfirst, hlast, hk, hin⟩
    have hhead := (enclosingBlock?_eq_some_iff.mp hin).2
    rw [haround hk] at hhead
    exact ⟨⟨hk, openedBefore_eq_cons hhead⟩, hfirst, hlast⟩
  · rintro ⟨⟨hk, hopened⟩, hfirst, hlast⟩
    refine ⟨hfirst, hlast, hk, enclosingBlock?_eq_some_iff.mpr ⟨hb, ?_⟩⟩
    rw [haround hk, hopened, List.head?_cons]

/-- The search within a subgraph goes by the stack. -/
theorem lastNode?_closed_eq : d.lastNode? (b.line + 1) (b.lastLine - 1) =
    ((List.range' (b.line + 1) (b.lastLine - (b.line + 1))).reverse.find?
      (d.declaresNodeOn (b.toBlockOpening :: d.openedBefore .flowchart b.line))).map
        fun n => ⟨n, indentation (d.line n)⟩ := by
  obtain ⟨hfirst, hlast⟩ := bounds_of_closed hb
  have hlt := line_lt_lastLine hb
  have hbehind : d.openedBefore .flowchart (b.line + 1) = b.toBlockOpening :: d.openedBefore .flowchart b.line :=
    openedBefore_behind_opening (opening_mem_openedBefore hb)
  have hlength : b.lastLine - 1 + 1 - (b.line + 1) = b.lastLine - (b.line + 1) := by omega
  rw [lastNode?_eq (by omega) (by omega) (by omega), hlength,
    lastNodeIn_eq none (fun i hi hi' => suffix_openedBefore_of_closed hb (by omega) (by omega))
      (by rw [hbehind, Nat.zero_add]), Option.or_none]

theorem lastNode?_closed_eq_some_iff : d.lastNode? (b.line + 1) (b.lastLine - 1) = some a ↔
    d.DeclaresNodeIn b a.line ∧ (∀ n, d.DeclaresNodeIn b n → n ≤ a.line) ∧ a.indent = indentation (d.line a.line) := by
  simp only [lastNode?_closed_eq hb, Option.map_eq_some_iff, find?_reverse_range'_eq_some_iff, declaresNodeIn_iff hb]
  constructor
  · rintro ⟨n, ⟨hnode, hfirst, hrange, hno⟩, rfl⟩
    have hlast : n < b.lastLine := by omega
    refine ⟨⟨hnode, hfirst, hlast⟩, fun k hk => Nat.le_of_not_lt fun hlt => ?_, rfl⟩
    obtain ⟨hnode', -, hlast'⟩ := hk
    rw [hno k hlt (by omega)] at hnode'
    cases hnode'
  · rintro ⟨⟨hnode, hfirst, hlast⟩, hlatest, hindent⟩
    refine ⟨a.line, ⟨hnode, hfirst, by omega, fun k hlt hlast' => Bool.eq_false_iff.mpr fun hnode' => ?_⟩, ?_⟩
    · have hle := hlatest k ⟨hnode', by omega, by omega⟩
      omega
    · rw [← hindent]

theorem lastNode?_closed_eq_none_iff :
    d.lastNode? (b.line + 1) (b.lastLine - 1) = none ↔ ∀ n, ¬d.DeclaresNodeIn b n := by
  simp only [lastNode?_closed_eq hb, Option.map_eq_none_iff, find?_reverse_range'_eq_none_iff, declaresNodeIn_iff hb]
  refine forall_congr' fun n => ?_
  constructor
  · rintro hno ⟨hnode, hfirst, hlast⟩
    rw [hno hfirst (by omega)] at hnode
    cases hnode
  · intro hno hfirst hlast
    exact Bool.eq_false_iff.mpr fun hnode => hno ⟨hnode, hfirst, by omega⟩

end Subgraph

/-- **The last node of a subgraph.** Between the first and the last line of a subgraph that is around some line, the
search returns the last of the lines that declare a node and have this subgraph around them as the innermost one, with
the indentation of the line, and it returns nothing where there is no such line. -/
theorem lastNode?_of_enclosingSubgraph? (hb : d.enclosingSubgraph? m = some b) :
    (∀ a : Anchor, d.lastNode? (b.line + 1) (b.lastLine - 1) = some a ↔
      d.DeclaresNodeIn b a.line ∧ (∀ n, d.DeclaresNodeIn b n → n ≤ a.line) ∧ a.indent = indentation (d.line a.line)) ∧
    (d.lastNode? (b.line + 1) (b.lastLine - 1) = none ↔ ∀ n, ¬d.DeclaresNodeIn b n) := by
  have hclosed := (enclosingBlock?_eq_some_iff.mp hb).1
  exact ⟨fun a => lastNode?_closed_eq_some_iff hclosed, lastNode?_closed_eq_none_iff hclosed⟩

/-- The node of the nested subgraph is not the last one of the subgraph around it. -/
theorem last_node_above_nested_subgraph :
    let d := Document.ofText "flowchart LR\nsubgraph a\n  b[B]\n  subgraph c\n    d[D]\n  end\nend\ne[E]\n".toList
    let outer : Block := ⟨⟨2, [], .subgraph⟩, 7⟩
    d.enclosingSubgraph? 3 = some outer ∧ d.lastNode? 3 6 = some ⟨3, "  ".toList⟩ ∧ d.DeclaresNodeIn outer 3 ∧
      ∀ n, d.DeclaresNodeIn outer n → n ≤ 3 := by
  intro d outer
  have hblock : d.enclosingSubgraph? 3 = some outer := by decide +kernel
  have hnode : d.lastNode? 3 6 = some ⟨3, "  ".toList⟩ := by decide +kernel
  obtain ⟨hdeclares, hlatest, -⟩ := ((lastNode?_of_enclosingSubgraph? hblock).1 ⟨3, "  ".toList⟩).mp hnode
  exact ⟨hblock, hnode, hdeclares, hlatest⟩

end DiagramText
