import Mathlib.Data.List.Basic
import DiagramText.Proofs.FreshNode
import DiagramText.Proofs.Insertion
import DiagramText.Session

/-!
# New nodes one after the other

Without a selection, a new node of a flowchart is named by the least free number, and the document after the plan has
every word of the document before it and the new name (`newNode_step`). So the numbers that are used never become free
again, and in a run of new nodes each number lies above those before it (`freshNode_newNodes`).
-/

namespace DiagramText

open Text

/-- The names that new nodes get at some cursors, where each plan is carried out before the next one is made: the name
is the default of the first stop. -/
def Session.newNodes? : Session → List Position → Option (List Text)
  | _, [] => some []
  | s, cursor :: rest =>
    match s.outcome .newElement cursor [] with
    | .edit plan =>
      (s.react? (.edit plan)).bind fun s' => (s'.newNodes? rest).map (plan.snippet.defaultOf 1 :: ·)
    | _ => none

/-! ## What a new line keeps -/

section Kept

variable {x y line : Text} {n a : Nat} {lines ending : List Text}

theorem IsUsed.of_words_subset (hwords : words x ⊆ words y) (h : IsUsed n x) : IsUsed n y := by
  rw [← mem_usedNumbers_iff] at h ⊢
  obtain ⟨word, hword, hnumber⟩ := List.mem_filterMap.mp h
  exact List.mem_filterMap.mpr ⟨word, hwords hword, hnumber⟩

theorem words_subset_unlines (h : line ∈ lines) : words line ⊆ words (unlines lines) := by
  intro word hword
  rw [words_unlines]
  exact List.mem_flatMap.mpr ⟨line, h, hword⟩

theorem words_unlines_subset_insert : words (unlines lines) ⊆
    words (unlines (lines.take a ++ [line] ++ lines.drop a ++ ending)) := by
  intro word hword
  rw [words_unlines] at hword
  obtain ⟨old, hold, hword⟩ := List.mem_flatMap.mp hword
  refine words_subset_unlines ?_ hword
  rw [← List.take_append_drop a lines, List.mem_append] at hold
  simp only [List.mem_append]
  rcases hold with h | h
  · exact Or.inl (Or.inl (Or.inl h))
  · exact Or.inl (Or.inr h)

/-- Read as a document, a text is given the same name for a new node. -/
theorem freshNode_value (text : Text) : freshNode (Document.ofText text).value = freshNode text := by
  have hwords : words (Document.ofText text).value = words text := words_unlines_lines text
  rw [freshNode, freshNode, usedNumbers, usedNumbers, hwords]

/-- The line of a node uses up the number of the node. -/
theorem isUsed_nodeText {indent : Text} (h : IsGap indent) (n : Nat) :
    IsUsed n (indent ++ nodeText (nodeName n)) := by
  refine isUsed_of_hasWord ⟨indent, '(' :: (titleCase (nodeName n) ++ [')']), by simp [nodeText], ?_, ?_⟩
  · intro c hc
    exact isWordCharacter_of_isBlank (h c (List.mem_of_getLast? hc))
  · intro c hc
    cases hc
    exact isWordCharacter_of_lt (by decide)

end Kept

/-! ## A new node -/

section Step

variable {s : Session} {n : Nat}

theorem defaultOf_newNode {d : Document} {name : Text} (hname : freshNode d.value = name) (n : Nat) (unit : Text) :
    (newElement d n [] ⟨.flowchart, unit⟩).snippet.defaultOf 1 = name := by
  have hdefault : ∀ s : Snippet, s.default? 1 = some name → s.defaultOf 1 = name := fun s hs => by
    rw [show s.defaultOf 1 = (s.default? 1).getD [] from rfl, hs]
    rfl
  have hidentifier : isIdentifier [] = false := rfl
  apply hdefault
  simp only [newElement, newNode, insertBelow, hidentifier, hname]
  split <;> simp

/-- A new node gets the least free number; afterwards this number is used, and those that were. -/
theorem newNode_step (cursor : Position) (hflowchart : s.context.dialect = .flowchart)
    (hgap : IsGap s.context.indentUnit) (hname : freshNode s.text = nodeName n) :
    ∃ plan s', s.outcome .newElement cursor [] = .edit plan ∧ plan.snippet.defaultOf 1 = nodeName n ∧
      s.react? (.edit plan) = some s' ∧ s'.context = s.context ∧ IsUsed n s'.text ∧
      ∀ m, IsUsed m s.text → IsUsed m s'.text := by
  obtain ⟨text, dialect, unit⟩ := s
  cases hflowchart
  rw [← freshNode_value] at hname
  have hins := newElement_inserts (.ofText text) cursor.line [] ⟨.flowchart, unit⟩
  have hanchor := standsIn_elementAnchor (.ofText text) cursor.line ⟨.flowchart, unit⟩
  have helement : elementName (.ofText text) [] .flowchart = nodeName n := hname
  have hlines : 1 ≤ (Document.ofText text).lineCount := List.length_pos_iff.mpr (lines_ne_nil text)
  have hlast := hanchor.last
  rw [Nat.max_eq_right hlines] at hlast
  have happly := hins.applyTo?_eq hanchor.first hlast
  rw [helement] at happly
  refine ⟨newElement (.ofText text) cursor.line [] ⟨.flowchart, unit⟩, ⟨_, ⟨.flowchart, unit⟩⟩, rfl,
    defaultOf_newNode hname cursor.line unit, congrArg (Option.map _) happly, rfl, ?_, ?_⟩
  · have hindent : IsGap (elementAnchor (.ofText text) cursor.line ⟨.flowchart, unit⟩).indent :=
      hanchor.forall_mem (fun k => isGap_indentation _) hgap
    exact (isUsed_nodeText hindent n).of_words_subset (words_subset_unlines (by simp [elementText]))
  · intro m hm
    rw [← mem_usedNumbers_iff, usedNumbers, ← words_unlines_lines, ← usedNumbers, mem_usedNumbers_iff] at hm
    exact hm.of_words_subset words_unlines_subset_insert

end Step

/-! ## Runs -/

section Runs

variable {s : Session}

/-- Where all numbers up to a bound are used, the numbers of a run lie above it. -/
theorem newNodes?_eq {bound : Nat} (cursors : List Position) (hflowchart : s.context.dialect = .flowchart)
    (hgap : IsGap s.context.indentUnit) (hused : ∀ m, 1 ≤ m → m ≤ bound → IsUsed m s.text) :
    ∃ numbers : List Nat, s.newNodes? cursors = some (numbers.map nodeName) ∧ numbers.length = cursors.length ∧
      (∀ n ∈ numbers, bound < n) ∧ numbers.Pairwise (· < ·) := by
  induction cursors generalizing s bound with
  | nil => exact ⟨[], rfl, rfl, fun n hn => absurd hn List.not_mem_nil, List.Pairwise.nil⟩
  | cons cursor cursors ih =>
    obtain ⟨n, hname, hfirst, hfree, hbelow⟩ := freshNode_eq s.text
    obtain ⟨plan, s', hplan, hdefault, hs', hcontext, hself, hkept⟩ := newNode_step cursor hflowchart hgap hname
    have hbound : bound < n := Nat.lt_of_not_le fun hle => hfree (hused n hfirst hle)
    have hused' : ∀ m, 1 ≤ m → m ≤ n → IsUsed m s'.text := by
      intro m h1 h2
      rcases Nat.eq_or_lt_of_le h2 with rfl | h2
      · exact hself
      · exact hkept m (hbelow m h1 h2)
    rw [← hcontext] at hflowchart hgap
    obtain ⟨numbers, hrun, hlength, habove, hsorted⟩ := ih hflowchart hgap hused'
    refine ⟨n :: numbers, ?_, congrArg (· + 1) hlength, ?_, List.Pairwise.cons habove hsorted⟩
    · simp only [Session.newNodes?, hplan, hs', hdefault, hrun, Option.bind_some, Option.map_some, List.map_cons]
    · intro m hm
      rcases List.mem_cons.mp hm with rfl | hm
      · exact hbound
      · exact Nat.lt_trans hbound (habove m hm)

/-- **New names are fresh, least and never repeated.** The name of a new node is `temp` with a number from 1 on. No word
of the text is this name, while for each lesser number from 1 on some word is `temp` with ASCII digits of its value. In
a flowchart, new nodes without a selection can be inserted one after the other at any cursors; each gets such a name,
and their numbers increase strictly. -/
theorem freshNode_newNodes (text : Text) :
    (∃ n, freshNode text = nodeName n ∧ 1 ≤ n ∧ ¬HasWord (nodeName n) text ∧
      ∀ m, 1 ≤ m → m < n → ∃ digits, digitsValue? digits = some m ∧ HasWord ("temp".toList ++ digits) text) ∧
    ∀ (context : EditContext) (cursors : List Position), context.dialect = .flowchart → IsGap context.indentUnit →
      ∃ numbers : List Nat, (Session.mk text context).newNodes? cursors = some (numbers.map nodeName) ∧
        numbers.length = cursors.length ∧ numbers.Pairwise (· < ·) := by
  constructor
  · obtain ⟨n, hname, hfirst, hfree, hbelow⟩ := freshNode_eq text
    exact ⟨n, hname, hfirst, fun hword => hfree (isUsed_of_hasWord hword), hbelow⟩
  · intro context cursors hflowchart hgap
    have hnone : ∀ m, 1 ≤ m → m ≤ 0 → IsUsed m text := fun m h1 h2 => by omega
    obtain ⟨numbers, hrun, hlength, -, hsorted⟩ :=
      @newNodes?_eq ⟨text, context⟩ 0 cursors hflowchart hgap hnone
    exact ⟨numbers, hrun, hlength, hsorted⟩

theorem three_new_nodes : ∃ n₁ n₂ n₃, n₁ < n₂ ∧ n₂ < n₃ ∧
    (Session.mk "flowchart LR\n  temp1(A)\n".toList ⟨.flowchart, indentUnit 2⟩).newNodes? [⟨2, 1⟩, ⟨9, 1⟩, ⟨1, 1⟩] =
      some [nodeName n₁, nodeName n₂, nodeName n₃] := by
  obtain ⟨numbers, hrun, hlength, hsorted⟩ := (freshNode_newNodes "flowchart LR\n  temp1(A)\n".toList).2
    ⟨.flowchart, indentUnit 2⟩ [⟨2, 1⟩, ⟨9, 1⟩, ⟨1, 1⟩] rfl (isGap_indentUnit 2)
  obtain ⟨n₁, n₂, n₃, rfl⟩ := List.length_eq_three.mp hlength
  rw [List.pairwise_cons, List.pairwise_cons] at hsorted
  exact ⟨n₁, n₂, n₃, hsorted.1 n₂ List.mem_cons_self, hsorted.2.1 n₃ List.mem_cons_self, hrun⟩

end Runs

end DiagramText
