import Mathlib.Data.List.Forall2
import DiagramText.Layout.Sequence
import DiagramText.Proofs.Block.Stack
import DiagramText.Proofs.Document

/-!
# Documents with the same body

The blocks of a sequence diagram depend on its body alone (`closedBlocks_eq_closedAt`). Two documents whose bodies have
the same kinds of lines, one after the other, have the same blocks up to the numbers of the lines: what one line does to
the stack keeps the stacks alike (`forall₂_step`), so all that is closed is alike (`forall₂_closedAt`), and around lines
at the same place of the bodies the innermost blocks are alike (`rel_enclosingBlock?`).
-/

namespace DiagramText

open Text

/-! ## The body of a document -/

namespace Document

/-- The numbers of the lines of the body of a sequence diagram. -/
def bodyLines (d : Document) : List Nat :=
  (List.range' 1 d.lineCount).filter fun n => (LineKind.ofLine .sequence (d.line n)).isBody

/-- The blocks that close in the lines with given numbers, one after the other, where `opened` holds the blocks that are
open before them. -/
def closedAt (d : Document) (opened : List BlockOpening) : List Nat → List Block
  | [] => []
  | n :: rest => (Block.closing? .sequence n opened (d.line n)).toList ++
      d.closedAt (Block.step .sequence n opened (d.line n)) rest

end Document

section Body

variable {d : Document} {n : Nat} {opened : List BlockOpening} {line : Text}

theorem pairwise_bodyLines (d : Document) : d.bodyLines.Pairwise (· < ·) :=
  List.Pairwise.filter _ (List.pairwise_lt_range' 1)

/-- The lines of the body in their order. -/
theorem map_line_bodyLines (d : Document) :
    d.bodyLines.map d.line = d.lines.filter fun line => (LineKind.ofLine .sequence line).isBody := by
  have hlines : d.lines = (List.range' 1 d.lineCount).map d.line := by
    refine List.ext_getElem (by simp [Document.lineCount]) fun i hi _ => ?_
    rw [List.getElem_map, List.getElem_range', Nat.one_mul, Nat.add_comm, Document.line, List.getD_eq_getElem _ _ hi]
  conv => rhs; rw [hlines, List.filter_map]
  rfl

/-- A line that does not belong to the body opens and closes no block. -/
theorem step_of_not_body (h : (LineKind.ofLine .sequence line).isBody = false) (n : Nat) (opened : List BlockOpening) :
    Block.closing? .sequence n opened line = none ∧ Block.step .sequence n opened line = opened := by
  unfold Block.closing? Block.step
  cases hk : LineKind.ofLine .sequence line with
  | blank | header | declaration => exact ⟨rfl, rfl⟩
  | _ =>
    rw [hk] at h
    cases h

theorem closedAt_filter (d : Document) (ns : List Nat) (opened : List BlockOpening) :
    d.closedAt opened (ns.filter fun n => (LineKind.ofLine .sequence (d.line n)).isBody) = d.closedAt opened ns := by
  induction ns generalizing opened with
  | nil => rfl
  | cons n ns ih =>
    rw [List.filter_cons]
    cases hbody : (LineKind.ofLine .sequence (d.line n)).isBody with
    | true => exact congrArg (_ ++ ·) (ih _)
    | false =>
      obtain ⟨hclosing, hstep⟩ := step_of_not_body hbody n opened
      rw [if_neg Bool.false_ne_true, Document.closedAt, hclosing, hstep, ih]
      rfl

theorem closedBehind_eq_closedAt {k : Nat} (h : n + k = d.lineCount) :
    d.closedBehind .sequence n = d.closedAt (d.openedBefore .sequence (n + 1)) (List.range' (n + 1) k) := by
  induction k generalizing n with
  | zero => exact closedBehind_of_le (Nat.le_of_eq h.symm)
  | succ k ih =>
    rw [closedBehind_eq, ih (by omega), List.range'_succ, Document.closedAt]
    rfl

/-- The body of a sequence diagram has all its blocks. -/
theorem closedBlocks_eq_closedAt (d : Document) : d.closedBlocks .sequence = d.closedAt [] d.bodyLines := by
  rw [Document.bodyLines, closedAt_filter, ← closedBehind_zero, closedBehind_eq_closedAt (Nat.zero_add _),
    openedBefore_one]

end Body

/-! ## Places -/

/-- Two numbers stand at the same place of two lists. -/
def AtSamePlace (xs ys : List Nat) (n m : Nat) : Prop :=
  ∃ i : Nat, xs[i]? = some n ∧ ys[i]? = some m

section Places

variable {xs ys : List Nat} {a a' n m : Nat}

theorem lt_iff_of_pairwise (h : xs.Pairwise (· < ·)) {i j : Nat} (hi : xs[i]? = some a) (hj : xs[j]? = some n) :
    a < n ↔ i < j := by
  obtain ⟨hi', rfl⟩ := List.getElem?_eq_some_iff.mp hi
  obtain ⟨hj', rfl⟩ := List.getElem?_eq_some_iff.mp hj
  rw [List.pairwise_iff_getElem] at h
  constructor
  · intro hlt
    by_contra hle
    rcases Nat.lt_or_eq_of_le (Nat.le_of_not_lt hle) with hji | rfl
    · exact Nat.lt_asymm hlt (h j i hj' hi' hji)
    · exact Nat.lt_irrefl _ hlt
  · exact h i j hi' hj'

/-- In increasing lists, places tell the order. -/
theorem AtSamePlace.lt_iff (hx : xs.Pairwise (· < ·)) (hy : ys.Pairwise (· < ·)) (ha : AtSamePlace xs ys a a')
    (hn : AtSamePlace xs ys n m) : a < n ↔ a' < m := by
  obtain ⟨i, hxi, hyi⟩ := ha
  obtain ⟨j, hxj, hyj⟩ := hn
  rw [lt_iff_of_pairwise hx hxi hxj, lt_iff_of_pairwise hy hyi hyj]

end Places

/-! ## Blocks alike -/

/-- Lines of the same kind at the same place of the bodies of two documents. -/
structure SameBodyLine (d d' : Document) (n m : Nat) : Prop where
  place : AtSamePlace d.bodyLines d'.bodyLines n m
  kind : LineKind.ofLine .sequence (d.line n) = LineKind.ofLine .sequence (d'.line m)

/-- Openings of the same kind at the same place of the bodies. -/
structure SameOpening (d d' : Document) (o o' : BlockOpening) : Prop where
  first : AtSamePlace d.bodyLines d'.bodyLines o.line o'.line
  kind : o.kind = o'.kind

/-- Blocks of the same kind whose first lines, and whose last lines, are at the same place of the bodies. -/
structure SameBlock (d d' : Document) (b b' : Block) : Prop extends
    SameOpening d d' b.toBlockOpening b'.toBlockOpening where
  last : AtSamePlace d.bodyLines d'.bodyLines b.lastLine b'.lastLine

section Alike

variable {d d' : Document} {n m : Nat} {opened opened' : List BlockOpening} {xs ys : List Nat}

/-- Lines of the same kind keep stacks alike. -/
theorem forall₂_step (hline : SameBodyLine d d' n m) (h : List.Forall₂ (SameOpening d d') opened opened') :
    List.Forall₂ (SameOpening d d') (Block.step .sequence n opened (d.line n))
      (Block.step .sequence m opened' (d'.line m)) := by
  have hnil : opened = [] ↔ opened' = [] := by
    rw [← List.length_eq_zero_iff, h.length_eq, List.length_eq_zero_iff]
  unfold Block.step
  rw [← hline.kind]
  cases LineKind.ofLine .sequence (d.line n) with
  | blockStart kind =>
    simp only [Ne, hnil]
    split
    · exact h
    · exact List.Forall₂.cons ⟨hline.place, rfl⟩ h
  | blockEnd =>
    cases h with
    | nil => exact List.Forall₂.nil
    | cons _ hrest => exact hrest
  | _ => exact h

/-- Lines of the same kind close blocks alike. -/
theorem forall₂_closing? (hline : SameBodyLine d d' n m) (h : List.Forall₂ (SameOpening d d') opened opened') :
    List.Forall₂ (SameBlock d d') (Block.closing? .sequence n opened (d.line n)).toList
      (Block.closing? .sequence m opened' (d'.line m)).toList := by
  unfold Block.closing?
  rw [← hline.kind]
  split
  · cases h with
    | nil => exact List.Forall₂.nil
    | cons ho _ => exact List.Forall₂.cons ⟨ho, hline.place⟩ List.Forall₂.nil
  · exact List.Forall₂.nil

/-- All that is closed in lines of the same kinds is alike. -/
theorem forall₂_closedAt (hlines : List.Forall₂ (SameBodyLine d d') xs ys)
    (h : List.Forall₂ (SameOpening d d') opened opened') :
    List.Forall₂ (SameBlock d d') (d.closedAt opened xs) (d'.closedAt opened' ys) := by
  induction hlines generalizing opened opened' with
  | nil => exact List.Forall₂.nil
  | cons hline _ ih => exact List.rel_append (forall₂_closing? hline h) (ih (forall₂_step hline h))

/-- The first entries that pass a test correspond, where entries that correspond pass it alike. -/
theorem rel_find? {α : Type} {S : α → α → Prop} {p q : α → Bool} {as bs : List α} (h : List.Forall₂ S as bs)
    (hpq : ∀ a b, S a b → p a = q b) : Option.Rel S (as.find? p) (bs.find? q) := by
  induction h with
  | nil => exact .none
  | @cons a b as bs hab _ ih =>
    rw [List.find?_cons, List.find?_cons, ← hpq a b hab]
    split
    · exact .some hab
    · exact ih

/-- Bodies with the same kinds of lines correspond line by line. -/
theorem forall₂_bodyLines (h : d.bodyLines.map (fun n => LineKind.ofLine .sequence (d.line n)) =
      d'.bodyLines.map fun n => LineKind.ofLine .sequence (d'.line n)) :
    List.Forall₂ (SameBodyLine d d') d.bodyLines d'.bodyLines := by
  refine List.forall₂_iff_get.mpr ⟨by simpa using congrArg List.length h, fun i hi hi' => ⟨⟨i, ?_, ?_⟩, ?_⟩⟩
  · exact List.getElem?_eq_getElem hi
  · exact List.getElem?_eq_getElem hi'
  · have hkind := congrArg (·[i]?) h
    simpa [List.getElem?_eq_getElem hi, List.getElem?_eq_getElem hi'] using hkind

/-- Around lines at the same place of bodies that correspond, the innermost blocks are alike. -/
theorem rel_enclosingBlock? (h : List.Forall₂ (SameBodyLine d d') d.bodyLines d'.bodyLines)
    (hplace : AtSamePlace d.bodyLines d'.bodyLines n m) :
    Option.Rel (SameBlock d d') (d.enclosingBlock? .sequence n) (d'.enclosingBlock? .sequence m) := by
  have hclosed : List.Forall₂ (SameBlock d d') (d.closedBlocks .sequence) (d'.closedBlocks .sequence) := by
    rw [closedBlocks_eq_closedAt, closedBlocks_eq_closedAt]
    exact forall₂_closedAt h List.Forall₂.nil
  refine rel_find? hclosed fun b b' hb => ?_
  have hfirst := hb.first.lt_iff (pairwise_bodyLines d) (pairwise_bodyLines d') hplace
  have hlast := hplace.lt_iff (pairwise_bodyLines d) (pairwise_bodyLines d') hb.last
  simp only [Block.encloses, hfirst, hlast]

end Alike

end DiagramText
