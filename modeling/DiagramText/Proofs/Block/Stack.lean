import Mathlib.Data.List.Find
import Mathlib.Data.List.GetD
import Mathlib.Data.Nat.Init
import Mathlib.Tactic.ByContra
import DiagramText.Block
import DiagramText.Proofs.Line

/-!
# Open blocks

- `Document.openedBefore` is the stack of the blocks that are open before a line, the innermost first. What one line
  does to it is said once, in `openedBefore_cases`; below an opening always lies the stack that it was put on
  (`exists_inner`), and its block stays open up to the line that closes it (`mem_openedBefore_of_closed`);
- a block is closed at a line where the line is the end of a block and the opening is on top of the stack
  (`mem_closedBlocks_iff`);
- the innermost block around a line is the closed block whose opening is on top of the stack around the line
  (`enclosingBlock?_eq_some_iff`).
-/

namespace DiagramText

open Text

namespace Block

/-- The blocks that are open behind line `n`, where `opened` holds those that are open before it. -/
def step (dialect : Dialect) (n : Nat) (opened : List BlockOpening) (line : Text) : List BlockOpening :=
  match LineKind.ofLine dialect line with
  | .blockStart kind => if kind = .and ∧ opened ≠ [] then opened else ⟨n, indentation line, kind⟩ :: opened
  | .blockEnd => opened.tail
  | _ => opened

/-- The block that line `n` closes, where `opened` holds the blocks that are open before it. -/
def closing? (dialect : Dialect) (n : Nat) (opened : List BlockOpening) (line : Text) : Option Block :=
  if LineKind.ofLine dialect line = .blockEnd then opened.head?.map (⟨·, n⟩) else none

end Block

namespace Document

/-- The blocks that are open before a line, the innermost first. -/
def openedBefore (d : Document) (dialect : Dialect) : Nat → List BlockOpening
  | 0 => []
  | n + 1 => Block.step dialect n (d.openedBefore dialect n) (d.line n)

/-- The blocks that are open around a line: those that are open before it, without the one that it closes. -/
def openedAround (d : Document) (dialect : Dialect) (n : Nat) : List BlockOpening :=
  if LineKind.ofLine dialect (d.line n) = .blockEnd then (d.openedBefore dialect n).tail else d.openedBefore dialect n

/-- The blocks that close behind line `n`. -/
def closedBehind (d : Document) (dialect : Dialect) (n : Nat) : List Block :=
  Block.closedIn dialect (n + 1) (d.openedBefore dialect (n + 1)) (d.lines.drop n)

end Document

variable {d : Document} {dialect : Dialect} {n m : Nat} {o : BlockOpening} {b : Block}

/-! ## One line -/

section Steps

theorem ofLine_nil (dialect : Dialect) : LineKind.ofLine dialect [] = .blank := by
  cases dialect <;> rfl

theorem line_eq_nil (h : d.lineCount < n) : d.line n = [] := by
  cases n with
  | zero => cases h
  | succ k => exact List.getD_eq_default _ _ (Nat.lt_succ_iff.mp h)

theorem drop_eq_cons (h : n < d.lineCount) : d.lines.drop n = d.line (n + 1) :: d.lines.drop (n + 1) := by
  rw [List.drop_eq_getElem_cons h, Document.line, List.getD_eq_getElem _ _ h]

/-- A line that is not blank exists. -/
theorem bounds_of_kind {kind : LineKind} (h : LineKind.ofLine dialect (d.line n) = kind) (hkind : kind ≠ .blank) :
    1 ≤ n ∧ n ≤ d.lineCount := by
  subst h
  constructor
  · by_contra hn
    have h0 : n = 0 := by omega
    subst h0
    exact hkind (ofLine_nil dialect)
  · by_contra hn
    rw [line_eq_nil (by omega)] at hkind
    exact hkind (ofLine_nil dialect)

/-- What a line does to the stack: it opens a block, closes one, or leaves the stack as it is. -/
theorem openedBefore_cases (d : Document) (dialect : Dialect) (n : Nat) :
    (∃ kind, LineKind.ofLine dialect (d.line n) = .blockStart kind ∧
      (kind = .and → d.openedBefore dialect n = []) ∧
      d.openedBefore dialect (n + 1) = ⟨n, indentation (d.line n), kind⟩ :: d.openedBefore dialect n) ∨
    (LineKind.ofLine dialect (d.line n) = .blockEnd ∧
      d.openedBefore dialect (n + 1) = (d.openedBefore dialect n).tail) ∨
    (LineKind.ofLine dialect (d.line n) ≠ .blockEnd ∧
      (∀ kind, LineKind.ofLine dialect (d.line n) = .blockStart kind →
        kind = .and ∧ d.openedBefore dialect n ≠ []) ∧
      d.openedBefore dialect (n + 1) = d.openedBefore dialect n) := by
  rw [Document.openedBefore, Block.step]
  cases hk : LineKind.ofLine dialect (d.line n) with
  | blockStart kind =>
    by_cases hand : kind = .and ∧ d.openedBefore dialect n ≠ []
    · right; right
      refine ⟨by simp, fun kind' h => ?_, by simp only [if_pos hand]⟩
      cases h
      exact hand
    · left
      refine ⟨kind, rfl, fun h => ?_, by simp only [if_neg hand]⟩
      by_contra hne
      exact hand ⟨h, hne⟩
  | blockEnd => exact Or.inr (Or.inl ⟨rfl, rfl⟩)
  | _ => exact Or.inr (Or.inr ⟨by simp, by simp, rfl⟩)

/-- In a flowchart, every line that starts a subgraph opens a block. -/
theorem openedBefore_flowchart_cases (d : Document) (n : Nat) :
    (LineKind.ofLine .flowchart (d.line n) = .blockStart .subgraph ∧ d.openedBefore .flowchart (n + 1) =
      ⟨n, indentation (d.line n), .subgraph⟩ :: d.openedBefore .flowchart n) ∨
    (LineKind.ofLine .flowchart (d.line n) = .blockEnd ∧
      d.openedBefore .flowchart (n + 1) = (d.openedBefore .flowchart n).tail) ∨
    (LineKind.ofLine .flowchart (d.line n) ≠ .blockEnd ∧
      (∀ kind, LineKind.ofLine .flowchart (d.line n) ≠ .blockStart kind) ∧
      d.openedBefore .flowchart (n + 1) = d.openedBefore .flowchart n) := by
  rcases openedBefore_cases d .flowchart n with ⟨kind, hk, _, he⟩ | hclose | ⟨hend, hno, he⟩
  · obtain rfl := kind_eq_subgraph hk
    exact Or.inl ⟨hk, he⟩
  · exact Or.inr (Or.inl hclose)
  · refine Or.inr (Or.inr ⟨hend, fun kind hk => ?_, he⟩)
    have hand := (hno kind hk).1
    rw [kind_eq_subgraph hk] at hand
    cases hand

/-- A line that neither opens nor closes a block leaves the stack as it is. -/
theorem openedBefore_succ_of_neutral (hend : LineKind.ofLine dialect (d.line n) ≠ .blockEnd)
    (hstart : ∀ kind, LineKind.ofLine dialect (d.line n) ≠ .blockStart kind) :
    d.openedBefore dialect (n + 1) = d.openedBefore dialect n := by
  rcases openedBefore_cases d dialect n with ⟨kind, hk, _⟩ | ⟨hk, _⟩ | ⟨_, _, h⟩
  · exact absurd hk (hstart kind)
  · exact absurd hk hend
  · exact h

theorem openedBefore_one (d : Document) (dialect : Dialect) : d.openedBefore dialect 1 = [] := by
  rw [Document.openedBefore, Document.line, Block.step, ofLine_nil]
  rfl

theorem openedBefore_succ_of_end (hend : LineKind.ofLine dialect (d.line n) = .blockEnd) :
    d.openedBefore dialect (n + 1) = (d.openedBefore dialect n).tail := by
  rcases openedBefore_cases d dialect n with ⟨kind, hk, _⟩ | ⟨_, h⟩ | ⟨hk, _⟩
  · rw [hk] at hend
    cases hend
  · exact h
  · exact absurd hend hk

/-- The number of open blocks changes by one at most. -/
theorem length_openedBefore_succ_le (d : Document) (dialect : Dialect) (n : Nat) :
    (d.openedBefore dialect (n + 1)).length ≤ (d.openedBefore dialect n).length + 1 := by
  rcases openedBefore_cases d dialect n with ⟨kind, _, _, h⟩ | ⟨_, h⟩ | ⟨_, _, h⟩
  · simp [h]
  · simp only [h, List.length_tail]
    omega
  · simp [h]

end Steps

/-! ## The stack -/

section Stack

/-- An opening that is on the stack behind a line was there before it, unless the line is its own. -/
theorem mem_openedBefore_succ (h : o ∈ d.openedBefore dialect (n + 1)) :
    o ∈ d.openedBefore dialect n ∨
      o.line = n ∧ o.indent = indentation (d.line n) ∧ LineKind.ofLine dialect (d.line n) = .blockStart o.kind := by
  rcases openedBefore_cases d dialect n with ⟨kind, hk, _, he⟩ | ⟨_, he⟩ | ⟨_, _, he⟩
  · rw [he, List.mem_cons] at h
    rcases h with rfl | h
    · exact Or.inr ⟨rfl, rfl, hk⟩
    · exact Or.inl h
  · rw [he] at h
    exact Or.inl (List.mem_of_mem_tail h)
  · rw [he] at h
    exact Or.inl h

/-- An open block starts above. -/
theorem line_lt_of_mem_openedBefore (h : o ∈ d.openedBefore dialect n) : o.line < n := by
  induction n with
  | zero => cases h
  | succ n ih =>
    rcases mem_openedBefore_succ h with h | ⟨h, _⟩
    · exact Nat.lt_succ_of_lt (ih h)
    · omega

/-- An opening has the indentation and the kind of its line. -/
theorem opening_of_mem_openedBefore (h : o ∈ d.openedBefore dialect n) :
    o.indent = indentation (d.line o.line) ∧ LineKind.ofLine dialect (d.line o.line) = .blockStart o.kind := by
  induction n with
  | zero => cases h
  | succ n ih =>
    rcases mem_openedBefore_succ h with h | ⟨rfl, h⟩
    · exact ih h
    · exact h

/-- A block that is open at a line was open at every line since the one that opened it. -/
theorem mem_openedBefore_of_le (h : o ∈ d.openedBefore dialect m) (hn : o.line < n) (hnm : n ≤ m) :
    o ∈ d.openedBefore dialect n := by
  induction m, hnm using Nat.le_induction with
  | base => exact h
  | succ m hnm ih =>
    rcases mem_openedBefore_succ h with h | ⟨h, _⟩
    · exact ih h
    · omega

/-- Below an opening lies the stack that it was put on, and above it lie openings of later lines. -/
theorem exists_inner (h : o ∈ d.openedBefore dialect n) : ∃ inner,
    d.openedBefore dialect n = inner ++ o :: d.openedBefore dialect o.line ∧ ∀ i ∈ inner, o.line < i.line := by
  induction n with
  | zero => cases h
  | succ n ih =>
    rcases openedBefore_cases d dialect n with ⟨kind, _, _, he⟩ | ⟨_, he⟩ | ⟨_, _, he⟩
    · rw [he, List.mem_cons] at h
      rcases h with rfl | h
      · exact ⟨[], by simpa using he, by simp⟩
      · obtain ⟨inner, hi, hlater⟩ := ih h
        refine ⟨⟨n, _, kind⟩ :: inner, by rw [he, hi]; rfl, ?_⟩
        intro i hmem
        rcases List.mem_cons.mp hmem with rfl | hmem
        · exact line_lt_of_mem_openedBefore h
        · exact hlater i hmem
    · rw [he] at h
      obtain ⟨inner, hi, hlater⟩ := ih (List.mem_of_mem_tail h)
      rw [he, hi]
      cases inner with
      | nil =>
        -- The line would close the block itself.
        rw [hi] at h
        have hlt := line_lt_of_mem_openedBefore (show o ∈ d.openedBefore dialect o.line from h)
        omega
      | cons i inner => exact ⟨inner, rfl, fun j hj => hlater j (List.mem_cons_of_mem i hj)⟩
    · rw [he] at h ⊢
      exact ih h

/-- Behind its own line, a block is on top of the stack that was there before. -/
theorem openedBefore_behind_opening (h : o ∈ d.openedBefore dialect n) :
    d.openedBefore dialect (o.line + 1) = o :: d.openedBefore dialect o.line := by
  have hlt := line_lt_of_mem_openedBefore h
  obtain ⟨inner, hi, _⟩ := exists_inner (mem_openedBefore_of_le h (Nat.lt_succ_self _) hlt)
  have hlen := length_openedBefore_succ_le d dialect o.line
  rw [hi] at hlen ⊢
  simp only [List.length_append, List.length_cons] at hlen
  have hnil : inner = [] := List.length_eq_zero_iff.mp (by omega)
  rw [hnil, List.nil_append]

/-- The opening of an open block is told by its line. -/
theorem opening_eq_of_line_eq {p : BlockOpening} (ho : o ∈ d.openedBefore dialect n)
    (hp : p ∈ d.openedBefore dialect m) (h : o.line = p.line) : o = p := by
  have h1 := openedBefore_behind_opening ho
  have h2 := openedBefore_behind_opening hp
  rw [h, h2] at h1
  exact (List.cons.inj h1).1.symm

/-- A branch separator opens a block where no block is open. -/
theorem openedBefore_eq_nil_of_and (h : o ∈ d.openedBefore dialect n) (hand : o.kind = .and) :
    d.openedBefore dialect o.line = [] := by
  have hbehind := openedBefore_behind_opening h
  rcases openedBefore_cases d dialect o.line with ⟨kind, _, hnil, he⟩ | ⟨_, he⟩ | ⟨_, _, he⟩
  · rw [he] at hbehind
    rw [← (List.cons.inj hbehind).1] at hand
    exact hnil hand
  · have hlen := congrArg List.length (he.symm.trans hbehind)
    rw [List.length_tail, List.length_cons] at hlen
    omega
  · have hlen := congrArg List.length (he.symm.trans hbehind)
    rw [List.length_cons] at hlen
    omega

/-- The block on top of the stack lies on the stack that it was put on. -/
theorem openedBefore_eq_cons {p : BlockOpening} (hp : (d.openedBefore dialect n).head? = some p) :
    d.openedBefore dialect n = p :: d.openedBefore dialect p.line := by
  obtain ⟨inner, hi, hlater⟩ := exists_inner (List.mem_of_mem_head? hp)
  cases inner with
  | nil => exact hi
  | cons i inner =>
    rw [hi] at hp
    have hlt := hlater i List.mem_cons_self
    rw [show i = p from Option.some.inj hp] at hlt
    exact absurd hlt (Nat.lt_irrefl _)

/-- The block on top of the stack starts behind all others. -/
theorem line_le_of_head {p : BlockOpening} (hp : (d.openedBefore dialect n).head? = some p)
    (ho : o ∈ d.openedBefore dialect n) : o.line ≤ p.line := by
  rw [openedBefore_eq_cons hp, List.mem_cons] at ho
  rcases ho with rfl | ho
  · exact Nat.le_refl _
  · exact Nat.le_of_lt (line_lt_of_mem_openedBefore ho)

/-- Below the top of the stack are the blocks behind which another one starts. -/
theorem mem_tail_openedBefore_iff : o ∈ (d.openedBefore dialect n).tail ↔
    o ∈ d.openedBefore dialect n ∧ ∃ p ∈ d.openedBefore dialect n, o.line < p.line := by
  cases hs : (d.openedBefore dialect n).head? with
  | none => simp [List.head?_eq_none_iff.mp hs]
  | some p =>
    have he := openedBefore_eq_cons hs
    constructor
    · intro ho
      refine ⟨List.mem_of_mem_tail ho, p, List.mem_of_mem_head? hs, ?_⟩
      rw [he] at ho
      exact line_lt_of_mem_openedBefore ho
    · rintro ⟨ho, q, hq, hlt⟩
      have hle := line_le_of_head hs hq
      rw [he] at ho ⊢
      rcases List.mem_cons.mp ho with rfl | ho
      · omega
      · exact ho

end Stack

/-! ## Closed blocks -/

section Closed

theorem closing?_eq_some_iff {opened : List BlockOpening} {line : Text} :
    Block.closing? dialect n opened line = some b ↔
      b.lastLine = n ∧ LineKind.ofLine dialect line = .blockEnd ∧ opened.head? = some b.toBlockOpening := by
  unfold Block.closing?
  split
  · next hk =>
    simp only [Option.map_eq_some_iff, hk, true_and]
    constructor
    · rintro ⟨o, ho, rfl⟩
      exact ⟨rfl, ho⟩
    · rintro ⟨rfl, ho⟩
      exact ⟨b.toBlockOpening, ho, rfl⟩
  · next hk => simp [hk]

/-- What the first of some lines closes, and what those behind it do. -/
theorem closedIn_cons (dialect : Dialect) (n : Nat) (opened : List BlockOpening) (line : Text) (rest : List Text) :
    Block.closedIn dialect n opened (line :: rest) = (Block.closing? dialect n opened line).toList ++
      Block.closedIn dialect (n + 1) (Block.step dialect n opened line) rest := by
  rw [Block.closedIn.eq_def, Block.closing?, Block.step]
  dsimp only
  cases hk : LineKind.ofLine dialect line with
  | blockStart kind =>
    by_cases hand : kind = .and ∧ opened ≠ []
    · simp [hand]
    · simp only [if_neg hand]
      rfl
  | blockEnd => cases opened <;> rfl
  | _ => rfl

theorem closedBehind_of_le (h : d.lineCount ≤ n) : d.closedBehind dialect n = [] := by
  rw [Document.closedBehind, List.drop_eq_nil_iff.mpr h]
  rfl

theorem closedBehind_eq (d : Document) (dialect : Dialect) (n : Nat) : d.closedBehind dialect n =
    (Block.closing? dialect (n + 1) (d.openedBefore dialect (n + 1)) (d.line (n + 1))).toList ++
      d.closedBehind dialect (n + 1) := by
  by_cases hn : n < d.lineCount
  · rw [Document.closedBehind, drop_eq_cons hn, closedIn_cons]
    rfl
  · have hnil : ∀ k, n ≤ k → d.closedBehind dialect k = [] := by
      intro k hk
      rw [Document.closedBehind, List.drop_eq_nil_iff.mpr (by unfold Document.lineCount at hn; omega)]
      rfl
    rw [hnil n (Nat.le_refl n), hnil (n + 1) (Nat.le_succ n), line_eq_nil (by omega), Block.closing?, ofLine_nil]
    rfl

theorem closedBehind_zero (d : Document) (dialect : Dialect) : d.closedBehind dialect 0 = d.closedBlocks dialect := by
  rw [Document.closedBehind, openedBefore_one]
  rfl

theorem mem_closedBehind_iff : b ∈ d.closedBehind dialect n ↔ n < b.lastLine ∧
    LineKind.ofLine dialect (d.line b.lastLine) = .blockEnd ∧
      (d.openedBefore dialect b.lastLine).head? = some b.toBlockOpening := by
  induction hj : d.lineCount - n generalizing n with
  | zero =>
    rw [closedBehind_of_le (by omega)]
    refine iff_of_false List.not_mem_nil ?_
    rintro ⟨hlast, hk, _⟩
    have hle := (bounds_of_kind hk LineKind.noConfusion).2
    omega
  | succ j ih =>
    rw [closedBehind_eq, List.mem_append, Option.mem_toList, closing?_eq_some_iff,
      ih (n := n + 1) (by omega)]
    constructor
    · rintro (⟨hlast, hk, ho⟩ | ⟨hlast, h⟩)
      · rw [hlast]
        exact ⟨Nat.lt_succ_self n, hk, ho⟩
      · exact ⟨by omega, h⟩
    · rintro ⟨hlast, hk, ho⟩
      by_cases he : b.lastLine = n + 1
      · rw [he] at hk ho
        exact Or.inl ⟨he, hk, ho⟩
      · exact Or.inr ⟨by omega, hk, ho⟩

/-- **Closed blocks.** A block is closed where its last line is the end of a block and its opening is on top of the
stack before that line. -/
theorem mem_closedBlocks_iff : b ∈ d.closedBlocks dialect ↔
    LineKind.ofLine dialect (d.line b.lastLine) = .blockEnd ∧
      (d.openedBefore dialect b.lastLine).head? = some b.toBlockOpening := by
  rw [← closedBehind_zero, mem_closedBehind_iff]
  exact and_iff_right_of_imp fun h => (bounds_of_kind h.1 LineKind.noConfusion).1

section ClosedBlock

variable (hb : b ∈ d.closedBlocks dialect)

include hb

theorem ofLine_lastLine : LineKind.ofLine dialect (d.line b.lastLine) = .blockEnd :=
  (mem_closedBlocks_iff.mp hb).1

theorem opening_mem_openedBefore : b.toBlockOpening ∈ d.openedBefore dialect b.lastLine :=
  List.mem_of_mem_head? (mem_closedBlocks_iff.mp hb).2

theorem line_lt_lastLine : b.line < b.lastLine :=
  line_lt_of_mem_openedBefore (opening_mem_openedBefore hb)

/-- The first and the last line of a closed block exist. -/
theorem bounds_of_closed : 1 ≤ b.line ∧ b.lastLine ≤ d.lineCount := by
  have hkind := (opening_of_mem_openedBefore (opening_mem_openedBefore hb)).2
  exact ⟨(bounds_of_kind hkind LineKind.noConfusion).1,
    (bounds_of_kind (ofLine_lastLine hb) LineKind.noConfusion).2⟩

/-- A closed block is open at all its lines. -/
theorem mem_openedBefore_of_closed (hfirst : b.line < n) (hlast : n ≤ b.lastLine) :
    b.toBlockOpening ∈ d.openedBefore dialect n :=
  mem_openedBefore_of_le (opening_mem_openedBefore hb) hfirst hlast

/-- At all its lines, a closed block lies on the stack that it was put on. -/
theorem suffix_openedBefore_of_closed (hfirst : b.line < n) (hlast : n ≤ b.lastLine) :
    b.toBlockOpening :: d.openedBefore dialect b.line <:+ d.openedBefore dialect n := by
  obtain ⟨inner, he, -⟩ := exists_inner (mem_openedBefore_of_closed hb hfirst hlast)
  exact ⟨inner, he.symm⟩

/-- At its last line, a block lies on the stack that it was put on. -/
theorem openedBefore_lastLine :
    d.openedBefore dialect b.lastLine = b.toBlockOpening :: d.openedBefore dialect b.line :=
  openedBefore_eq_cons (mem_closedBlocks_iff.mp hb).2

/-- A closed block is not open behind its last line. -/
theorem lt_lastLine_of_mem (h : b.toBlockOpening ∈ d.openedBefore dialect (n + 1)) : n < b.lastLine := by
  by_contra hn
  have hfirst := line_lt_lastLine hb
  have hmem := mem_openedBefore_of_le h (n := b.lastLine + 1) (by omega) (by omega)
  rw [openedBefore_succ_of_end (ofLine_lastLine hb), openedBefore_lastLine hb] at hmem
  exact absurd (line_lt_of_mem_openedBefore hmem) (Nat.lt_irrefl _)

/-- A block is told by the line that opens it. -/
theorem block_eq_of_line_eq {b' : Block} (hb' : b' ∈ d.closedBlocks dialect) (h : b.line = b'.line) : b = b' := by
  have ho := opening_eq_of_line_eq (opening_mem_openedBefore hb) (opening_mem_openedBefore hb') h
  have hle : b.lastLine = b'.lastLine := by
    rcases Nat.lt_trichotomy b.lastLine b'.lastLine with hlt | he | hlt
    · have hmem := mem_openedBefore_of_closed hb' (n := b.lastLine + 1) (by have := line_lt_lastLine hb; omega) hlt
      rw [← ho] at hmem
      exact absurd (lt_lastLine_of_mem hb hmem) (Nat.lt_irrefl _)
    · exact he
    · have hmem := mem_openedBefore_of_closed hb (n := b'.lastLine + 1) (by have := line_lt_lastLine hb'; omega) hlt
      rw [ho] at hmem
      exact absurd (lt_lastLine_of_mem hb' hmem) (Nat.lt_irrefl _)
  cases b
  cases b'
  simp only at ho hle
  rw [ho, hle]

end ClosedBlock

end Closed

/-! ## The innermost block -/

section Innermost

theorem mem_openedBefore_of_around (h : o ∈ d.openedAround dialect n) : o ∈ d.openedBefore dialect n := by
  unfold Document.openedAround at h
  split at h
  · exact List.mem_of_mem_tail h
  · exact h

/-- The blocks around a line are open behind it. -/
theorem mem_openedBefore_succ_of_around (h : o ∈ d.openedAround dialect n) : o ∈ d.openedBefore dialect (n + 1) := by
  unfold Document.openedAround at h
  split at h
  · next hend => rwa [openedBefore_succ_of_end hend]
  · next hend =>
    rcases openedBefore_cases d dialect n with ⟨kind, _, _, he⟩ | ⟨hend', _⟩ | ⟨_, _, he⟩
    · rw [he]
      exact List.mem_cons_of_mem _ h
    · exact absurd hend' hend
    · rwa [he]

theorem openedAround_eq_or (d : Document) (dialect : Dialect) (n : Nat) :
    d.openedAround dialect n = d.openedBefore dialect n ∨
      d.openedAround dialect n = d.openedBefore dialect (n + 1) := by
  unfold Document.openedAround
  split
  · next hend => exact Or.inr (openedBefore_succ_of_end hend).symm
  · exact Or.inl rfl

/-- The innermost block around a line lies on the stack that it was put on. -/
theorem openedAround_eq_cons (h : (d.openedAround dialect n).head? = some o) :
    d.openedAround dialect n = o :: d.openedBefore dialect o.line := by
  rcases openedAround_eq_or d dialect n with he | he <;> rw [he] at h ⊢ <;> exact openedBefore_eq_cons h

/-- The block around a line that starts last is on top of those that are open behind the line and start above it. -/
theorem find?_openedBefore_succ (d : Document) (dialect : Dialect) (n : Nat) :
    (d.openedBefore dialect (n + 1)).find? (·.line < n) = (d.openedAround dialect n).head? := by
  have habove : ∀ opened : List BlockOpening, (∀ o ∈ opened, o ∈ d.openedBefore dialect n) →
      opened.find? (·.line < n) = opened.head? := by
    intro opened h
    cases opened with
    | nil => rfl
    | cons o opened => simp [line_lt_of_mem_openedBefore (h o List.mem_cons_self)]
  unfold Document.openedAround
  rcases openedBefore_cases d dialect n with ⟨kind, hk, _, he⟩ | ⟨hend, he⟩ | ⟨hend, _, he⟩
  · rw [he, if_neg (by simp [hk]), ← habove _ fun o ho => ho]
    simp
  · rw [he, if_pos hend]
    exact habove _ fun o ho => List.mem_of_mem_tail ho
  · rw [he, if_neg hend]
    exact habove _ fun o ho => ho

/-- Of the blocks that start above a line, the first to close behind line `m` is on top of the stack. -/
theorem find?_closedBehind (hnm : n ≤ m) (h : (d.closedBehind dialect m).find? (·.line < n) = some b) :
    (d.openedBefore dialect (m + 1)).find? (·.line < n) = some b.toBlockOpening := by
  induction hj : d.lineCount - m generalizing m with
  | zero =>
    rw [closedBehind_of_le (by omega)] at h
    cases h
  | succ j ih =>
    rw [closedBehind_eq, List.find?_append] at h
    have ih' := ih (m := m + 1) (by omega)
    rcases openedBefore_cases d dialect (m + 1) with ⟨kind, hk, _, he⟩ | ⟨hend, he⟩ | ⟨hend, _, he⟩
    · rw [Block.closing?, if_neg (by simp [hk])] at h
      have := ih' h (by omega)
      rw [he, List.find?_cons, decide_eq_false (by simp; omega)] at this
      exact this
    · rw [he] at ih'
      rw [Block.closing?, if_pos hend] at h
      cases ho : d.openedBefore dialect (m + 1) with
      | nil =>
        rw [ho] at h ih'
        exact absurd (ih' h (by omega)) (by simp)
      | cons o opened =>
        rw [ho] at h ih'
        simp only [List.head?_cons, Option.map_some, Option.toList_some, List.find?_cons, List.find?_nil,
          List.tail_cons] at h ih' ⊢
        by_cases hlt : o.line < n
        · simp only [hlt, decide_true, Option.some_or, Option.some.injEq] at h ⊢
          rw [← h]
        · simp only [hlt, decide_false, Option.none_or] at h ⊢
          exact ih' h (by omega)
    · rw [Block.closing?, if_neg hend] at h
      have := ih' h (by omega)
      rwa [he] at this

/-- Blocks that are closed at or above a line are not around it. -/
theorem find?_encloses (hmn : m ≤ n) : (d.closedBehind dialect m).find? (·.encloses n) =
    (d.closedBehind dialect n).find? (·.line < n) := by
  induction hmn using Nat.decreasingInduction with
  | self =>
    refine List.find?_congr fun b hb => ?_
    have := (mem_closedBehind_iff.mp hb).1
    simp [Block.encloses, this]
  | of_succ m hmn ih =>
    rw [closedBehind_eq, List.find?_append, ih]
    cases hc : Block.closing? dialect (m + 1) (d.openedBefore dialect (m + 1)) (d.line (m + 1)) with
    | none => rfl
    | some b =>
      have hlast := (closing?_eq_some_iff.mp hc).1
      have hno : b.encloses n = false := by
        simp only [Block.encloses, Bool.and_eq_false_iff, decide_eq_false_iff_not]
        omega
      simp [hno]

/-- **The innermost block around a line** is the closed block whose opening is on top of the stack around the line. -/
theorem enclosingBlock?_eq_some_iff : d.enclosingBlock? dialect n = some b ↔
    b ∈ d.closedBlocks dialect ∧ (d.openedAround dialect n).head? = some b.toBlockOpening := by
  have hfind : d.enclosingBlock? dialect n = (d.closedBehind dialect n).find? (·.line < n) := by
    rw [Document.enclosingBlock?, ← closedBehind_zero, find?_encloses (Nat.zero_le n)]
  have htop : ∀ {b}, d.enclosingBlock? dialect n = some b →
      (d.openedAround dialect n).head? = some b.toBlockOpening := by
    intro b h
    rw [hfind] at h
    rw [← find?_openedBefore_succ]
    exact find?_closedBehind (Nat.le_refl n) h
  constructor
  · intro h
    exact ⟨List.mem_of_find?_eq_some h, htop h⟩
  · rintro ⟨hb, hhead⟩
    have hmem := List.mem_of_mem_head? hhead
    have hlast := lt_lastLine_of_mem hb (mem_openedBefore_succ_of_around hmem)
    have hfirst := line_lt_of_mem_openedBefore (mem_openedBefore_of_around hmem)
    cases h : d.enclosingBlock? dialect n with
    | none =>
      have hno := List.find?_eq_none.mp h b hb
      simp [Block.encloses, hfirst, hlast] at hno
    | some b' =>
      have ho := htop h
      rw [hhead] at ho
      rw [block_eq_of_line_eq hb (List.mem_of_find?_eq_some h) (congrArg BlockOpening.line (Option.some.inj ho))]

end Innermost

end DiagramText
