import DiagramText.Proofs.Block.Stack

/-!
# Blocks and inserted lines

A line that neither opens nor closes a block, put below line `a`, leaves the stack above it as it is
(`openedBefore_above`) and moves what opens below it by one line (`openedBefore_below`). So the block that is open at it
stays closed, one line further down (`mem_closedBlocks_insert`), and is the innermost block around it
(`enclosingBlock?_insert`).
-/

namespace DiagramText

open Text

/-- Two lines open the same block, with the same indentation, or close one, or do neither. -/
structure SameLine (dialect : Dialect) (line line' : Text) : Prop where
  kind : LineKind.ofLine dialect line' = LineKind.ofLine dialect line
  indent : ∀ kind, LineKind.ofLine dialect line = .blockStart kind → indentation line' = indentation line

/-- A document with a line below line `a` of another one that neither opens nor closes a block. -/
structure InsertsNeutral (d d' : Document) (dialect : Dialect) (a : Nat) : Prop where
  above : ∀ n, n ≤ a → SameLine dialect (d.line n) (d'.line n)
  not_end : LineKind.ofLine dialect (d'.line (a + 1)) ≠ .blockEnd
  not_start : ∀ kind, LineKind.ofLine dialect (d'.line (a + 1)) ≠ .blockStart kind
  below : ∀ n, a < n → SameLine dialect (d.line n) (d'.line (n + 1))

/-- A line number behind an insertion below line `a`. -/
def shiftLine (a n : Nat) : Nat :=
  if n ≤ a then n else n + 1

/-- The opening of a block behind an insertion below line `a`. -/
def BlockOpening.shift (a : Nat) (o : BlockOpening) : BlockOpening :=
  { o with line := shiftLine a o.line }

variable {d d' : Document} {dialect : Dialect} {a n : Nat} {o : BlockOpening} {b : Block} {line line' : Text}

section Step

theorem shift_eq_self (h : o.line ≤ a) : o.shift a = o := by
  rw [BlockOpening.shift, shiftLine, if_pos h]

/-- The same lines do the same to a stack, wherever they stand. -/
theorem step_map_shift (h : SameLine dialect line line') (a n : Nat) (opened : List BlockOpening) :
    Block.step dialect (shiftLine a n) (opened.map (·.shift a)) line' =
      (Block.step dialect n opened line).map (·.shift a) := by
  unfold Block.step
  rw [h.kind]
  cases hk : LineKind.ofLine dialect line with
  | blockStart kind =>
    rw [h.indent kind hk]
    by_cases hand : kind = .and ∧ opened ≠ []
    · simp [hand]
    · simp only [hand, List.map_eq_nil_iff, Ne, if_false, List.map_cons]
      rfl
  | blockEnd => exact (List.map_tail).symm
  | _ => rfl

end Step

section Stacks

variable (h : InsertsNeutral d d' dialect a)

include h

theorem openedBefore_map_shift (hn : n ≤ a + 1) :
    d'.openedBefore dialect n = (d.openedBefore dialect n).map (·.shift a) := by
  induction n with
  | zero => rfl
  | succ n ih =>
    have hna : n ≤ a := Nat.le_of_succ_le_succ hn
    have hstep := step_map_shift (h.above n hna) a n (d.openedBefore dialect n)
    rw [shiftLine, if_pos hna] at hstep
    rw [Document.openedBefore, ih (Nat.le_succ_of_le hna), hstep]
    rfl

/-- The stack above an inserted line is what it was. -/
theorem openedBefore_above (hn : n ≤ a + 1) : d'.openedBefore dialect n = d.openedBefore dialect n := by
  have hid : (d.openedBefore dialect n).map (·.shift a) = (d.openedBefore dialect n).map id :=
    List.map_congr_left fun o ho => shift_eq_self (by have := line_lt_of_mem_openedBefore ho; omega)
  rw [openedBefore_map_shift h hn, hid, List.map_id]

/-- Below an inserted line, what opens below it stands one line further down. -/
theorem openedBefore_below (hn : a < n) :
    d'.openedBefore dialect (n + 1) = (d.openedBefore dialect n).map (·.shift a) := by
  induction n, hn using Nat.le_induction with
  | base => rw [openedBefore_succ_of_neutral h.not_end h.not_start, openedBefore_map_shift h (Nat.le_refl _)]
  | succ n hn ih =>
    have hstep := step_map_shift (h.below n hn) a n (d.openedBefore dialect n)
    rw [shiftLine, if_neg (Nat.not_le_of_lt hn)] at hstep
    rw [Document.openedBefore, ih, hstep]
    rfl

/-- A block that is open at an inserted line is closed one line further down. -/
theorem mem_closedBlocks_insert (hb : b ∈ d.closedBlocks dialect) (hfirst : b.line ≤ a) (hlast : a < b.lastLine) :
    { b with lastLine := b.lastLine + 1 } ∈ d'.closedBlocks dialect := by
  refine mem_closedBlocks_iff.mpr ⟨?_, ?_⟩
  · exact (h.below b.lastLine hlast).kind.trans (ofLine_lastLine hb)
  · show (d'.openedBefore dialect (b.lastLine + 1)).head? = some b.toBlockOpening
    rw [openedBefore_below h hlast, List.head?_map, (mem_closedBlocks_iff.mp hb).2, Option.map_some,
      shift_eq_self hfirst]

theorem openedAround_insert : d'.openedAround dialect (a + 1) = d.openedBefore dialect (a + 1) := by
  rw [Document.openedAround, if_neg h.not_end, openedBefore_above h (Nat.le_refl _)]

/-- The innermost block around an inserted line is the one that is open below line `a`. -/
theorem enclosingBlock?_insert (hb : b ∈ d.closedBlocks dialect) (hfirst : b.line ≤ a) (hlast : a < b.lastLine)
    (hopen : (d.openedBefore dialect (a + 1)).head? = some b.toBlockOpening) :
    d'.enclosingBlock? dialect (a + 1) = some { b with lastLine := b.lastLine + 1 } := by
  refine enclosingBlock?_eq_some_iff.mpr ⟨mem_closedBlocks_insert h hb hfirst hlast, ?_⟩
  rw [openedAround_insert h]
  exact hopen

/-- There is no block around an inserted line where none is open. -/
theorem enclosingBlock?_insert_of_nil (hopen : d.openedBefore dialect (a + 1) = []) :
    d'.enclosingBlock? dialect (a + 1) = none := by
  rw [Option.eq_none_iff_forall_ne_some]
  intro b hb
  have hhead := (enclosingBlock?_eq_some_iff.mp hb).2
  rw [openedAround_insert h, hopen] at hhead
  cases hhead

end Stacks

end DiagramText
