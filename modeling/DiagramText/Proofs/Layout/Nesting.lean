import DiagramText.Proofs.Block.Stack
import DiagramText.Proofs.Document
import DiagramText.Proofs.Layout.Canonical
import DiagramText.Proofs.Layout.Sequence

/-!
# Depth and nesting

The layout counts a depth, and a block is found with a stack. Between the first and the last line of a block the two
change alike (`depthBefore_add`), unless the header of a flowchart, which starts at depth one again, stands in between.

A text in canonical form is laid out as it stands: each of its lines is the row that the layout gives it at the depth
that the lines above leave (`indentation_line`). So the indentation of a line tells the block around it
(`indentation_of_enclosingBlock?`).
-/

namespace DiagramText

open Text

/-! ## Rows of both dialects -/

namespace Dialect

/-- A text in the canonical form of a dialect, where one level of indentation is `unit`. -/
def format : Dialect → Text → Text → Text
  | flowchart => formatFlowchart
  | sequence => formatSequence

/-- The depth that a line leaves, and its row, where the lines before it leave a given depth. -/
def row : Dialect → Nat → Text → Nat × Row
  | flowchart => flowchartRow
  | sequence => sequenceRow

/-- The depth before the first line. -/
def baseDepth : Dialect → Nat
  | flowchart => 0
  | sequence => 1

end Dialect

/-- The depth that the lines above a line leave. -/
def Document.depthBefore (d : Document) (dialect : Dialect) : Nat → Nat
  | 0 => dialect.baseDepth
  | n + 1 => (dialect.row (d.depthBefore dialect n) (d.line n)).1

section Rows

variable {dialect : Dialect} {line : Text}

theorem row_trim (dialect : Dialect) (depth : Nat) (line : Text) :
    dialect.row depth (trim line) = dialect.row depth line := by
  cases dialect with
  | flowchart => exact flowchartRow_trim depth line
  | sequence => exact sequenceRow_trim depth line

/-- A blank line leaves the depth as it is. -/
theorem row_of_blank (h : LineKind.ofLine dialect line = .blank) (depth : Nat) :
    (dialect.row depth line).1 = depth := by
  cases dialect <;> simp [Dialect.row, flowchartRow, sequenceRow, h, LineKind.depthBehind, LineKind.bodyDepthBehind]

theorem isTight_row (dialect : Dialect) (h : IsTight line) (depth : Nat) :
    IsTight (dialect.row depth line).2.text := by
  cases dialect with
  | flowchart => exact isTight_flowchartText h
  | sequence => exact isTight_sequenceText h

theorem indentation_render {unit : Text} (h : IsGap unit) {row : Row} (hr : IsTight row.text) :
    indentation (row.render unit) = (List.replicate row.depth unit).flatten := by
  obtain ⟨_, c, rest, hrow, hc⟩ := hr
  rw [Row.render, hrow]
  exact indentation_gap_append (isGap_flatten_replicate h row.depth) hc rest

end Rows

/-! ## Texts in canonical form -/

/-- The lines below the first `k` are the rows that the layout gives them, and no block opens in those above. -/
structure IsLaidOut (d : Document) (dialect : Dialect) (unit : Text) (k : Nat) : Prop where
  top : ∀ n, n ≤ k → ∀ kind, LineKind.ofLine dialect (d.line n) ≠ .blockStart kind
  line_eq : ∀ n, k < n → isFilled (d.line n) = true →
    d.line n = (dialect.row (d.depthBefore dialect n) (d.line n)).2.render unit

section Canonical

variable {d : Document} {dialect : Dialect} {unit text : Text} {ls rest : List Text} {k n w : Nat}

theorem line_eq_of_drop (h : d.lines.drop k = rest) (hrest : ∀ line ∈ rest, line = []) (hn : k < n) :
    d.line n = [] := by
  obtain ⟨j, rfl⟩ := Nat.exists_eq_add_of_lt hn
  rw [Document.line, List.getD_eq_getElem?_getD, ← List.getElem?_drop, h]
  cases hj : rest[j]? with
  | none => rfl
  | some line => exact hrest line (List.mem_of_getElem? hj)

/-- A pass over lines that changes none of them makes each line the row of the depth that the lines above leave. -/
theorem line_eq_render (hdrop : d.lines.drop k = ls ++ rest) (hrest : ∀ line ∈ rest, line = [])
    (hls : ∀ line ∈ ls, '\n' ∉ line)
    (hrows : (threaded dialect.row (d.depthBefore dialect (k + 1)) (bodies ls)).map
      (fun row => row.elim [] (Row.render unit)) = ls)
    (hn : k < n) (hf : isFilled (d.line n) = true) :
    d.line n = (dialect.row (d.depthBefore dialect n) (d.line n)).2.render unit := by
  induction ls generalizing k with
  | nil =>
    rw [line_eq_of_drop hdrop hrest hn] at hf
    cases hf
  | cons line ls ih =>
    have hk : k < d.lineCount := by
      rw [Document.lineCount, ← Nat.not_le, ← List.drop_eq_nil_iff, hdrop]
      exact List.cons_ne_nil _ _
    have hdrop' := drop_eq_cons hk
    rw [hdrop, List.cons_append, List.cons.injEq] at hdrop'
    obtain ⟨hline, hdrop'⟩ := hdrop'
    have ih' := ih hdrop'.symm fun l hl => hls l (List.mem_cons_of_mem line hl)
    have hdepth : d.depthBefore dialect (k + 1 + 1) = (dialect.row (d.depthBefore dialect (k + 1)) line).1 := by
      rw [Document.depthBefore, hline]
    cases hfl : isFilled line with
    | false =>
      have hblank : LineKind.ofLine dialect line = .blank :=
        (ofLine_eq_blank_iff (hls line List.mem_cons_self)).mpr hfl
      rw [row_of_blank hblank] at hdepth
      simp only [bodies, List.map_cons, hfl, Bool.false_eq_true, if_false, threaded, List.cons.injEq] at hrows
      rcases Nat.lt_or_eq_of_le (Nat.succ_le_of_lt hn) with hlt | rfl
      · exact ih' (by rw [hdepth]; exact hrows.2) hlt
      · rw [← hline, hfl] at hf
        cases hf
    | true =>
      simp only [bodies, List.map_cons, hfl, if_true, threaded, List.cons.injEq, row_trim] at hrows
      rcases Nat.lt_or_eq_of_le (Nat.succ_le_of_lt hn) with hlt | rfl
      · exact ih' (by rw [hdepth]; exact hrows.2) hlt
      · rw [← hline]
        exact hrows.1.symm

theorem isLaidOut_flowchart (hc : formatFlowchart (indentUnit w) text = text) :
    IsLaidOut (.ofText text) .flowchart (indentUnit w) 0 := by
  have htight : ∀ row, some row ∈ flowchartPage 0 (lines text) → IsTight row.text :=
    fun row hr => isTight_of_mem_flowchartPage hr
  obtain ⟨rest, hlines, hrest⟩ := lines_render (newline_not_mem_indentUnit w) htight
  rw [← formatFlowchart, hc] at hlines
  have hrows := isCanonical_rows hc
  constructor
  · intro n hn kind hk
    have := (bounds_of_kind hk LineKind.noConfusion).1
    omega
  · intro n hn hf
    exact line_eq_render (k := 0) hlines hrest hrows.newline hrows.laid_out hn hf

/-- Entries that leave the state as it is are replaced by themselves. -/
theorem threaded_append {α β σ : Type} {step : σ → α → σ × β} {f : α → β} {xs : List (Option α)} {s : σ}
    (h : ∀ a, some a ∈ xs → step s a = (s, f a)) (ys : List (Option α)) :
    threaded step s (xs ++ ys) = xs.map (·.map f) ++ threaded step s ys := by
  induction xs with
  | nil => rfl
  | cons x xs ih =>
    have ih' := ih fun a ha => h a (List.mem_cons_of_mem x ha)
    cases x with
    | none => exact congrArg (none :: ·) ih'
    | some a =>
      rw [List.cons_append, threaded, h a List.mem_cons_self]
      exact congrArg (some (f a) :: ·) ih'

/-- The rows behind the header of a sequence diagram are laid out again as they are. -/
theorem AreRegions.threaded_texts {D B : List (Option Text)} (h : AreRegions D B) :
    some ⟨0, "sequenceDiagram".toList⟩ :: threaded sequenceRow 1 (D.map (·.map sequenceText) ++
      ((if D = [] ∨ B = [] then [] else [none]) ++ B.map (·.map sequenceText))) = regionsPage D B := by
  have hD : ∀ line, some line ∈ D.map (·.map sequenceText) → sequenceRow 1 line = (1, declarationRow line) := by
    intro line hl
    obtain ⟨x, hx, hline⟩ := List.mem_map.mp hl
    obtain ⟨source, rfl, rfl⟩ := Option.map_eq_some_iff.mp hline
    rw [sequenceRow, ofLine_sequenceText (h.declarations_tight source hx), h.declarations_kind source hx]
    rfl
  have htop : (D.map (·.map sequenceText)).map (·.map declarationRow) = D.map (·.map declarationRow) := by
    rw [List.map_map]
    refine List.map_congr_left fun x hx => ?_
    cases x with
    | none => rfl
    | some line => simp [declarationRow, sequenceText_sequenceText (h.declarations_tight line hx)]
  have hbody : threaded sequenceRow 1 (B.map (·.map sequenceText)) = threaded sequenceRow 1 B := by
    rw [threaded_map]
    exact threaded_congr (fun line hl depth => sequenceRow_sequenceText (h.body_tight line hl) depth) 1
  rw [threaded_append hD, htop, regionsPage, List.cons_append, List.cons_append, List.append_assoc]
  split
  · rw [List.nil_append, List.nil_append, hbody]
  · rw [List.singleton_append, List.singleton_append, threaded, hbody]

theorem isLaidOut_sequence (hc : formatSequence (indentUnit w) text = text) :
    IsLaidOut (.ofText text) .sequence (indentUnit w) 1 := by
  have hregions := areRegions_lines text
  have hpage : sequencePage (lines text) = regionsPage _ _ :=
    sequencePage_eq_regionsPage fun _ hl => newline_not_mem_lines hl
  generalize region (· = .declaration) (bodies (lines text)) = D at hregions hpage
  generalize region LineKind.isBody (bodies (lines text)) = B at hregions hpage
  have htight : ∀ row, some row ∈ regionsPage D B → IsTight row.text := fun row hr => hregions.isTight_of_mem hr
  have hunit := newline_not_mem_indentUnit w
  obtain ⟨rest, hlines, hrest⟩ := lines_render hunit htight
  have hnewline := newline_not_mem_rows hunit htight
  have hbodies := bodies_rows (isGap_indentUnit w) htight
  rw [hregions.squeeze_regionsPage, map_text_regionsPage] at hbodies
  rw [← hpage, ← formatSequence, hc, hpage] at hlines
  have hrows : (regionsPage D B).rows (indentUnit w) = "sequenceDiagram".toList ::
      (threaded sequenceRow 1 (D.map (·.map sequenceText) ++ ((if D = [] ∨ B = [] then [] else [none]) ++
        B.map (·.map sequenceText)))).map (fun row => row.elim [] (Row.render (indentUnit w))) := by
    rw [Page.rows, hregions.squeeze_regionsPage, ← hregions.threaded_texts]
    rfl
  generalize (regionsPage D B).rows (indentUnit w) = rows at hlines hnewline hbodies hrows
  generalize D.map (·.map sequenceText) ++ ((if D = [] ∨ B = [] then [] else [none]) ++
    B.map (·.map sequenceText)) = texts at hbodies hrows
  subst hrows
  have htexts := (List.cons.inj hbodies).2
  have hkind : LineKind.ofLine .sequence "sequenceDiagram".toList = .header := by decide
  have hline : (Document.ofText text).line 1 = "sequenceDiagram".toList := by
    show (lines text).getD 0 [] = _
    rw [hlines]
    rfl
  constructor
  · intro n hn kind hk
    have h1 := (bounds_of_kind hk LineKind.noConfusion).1
    have : n = 1 := by omega
    subst this
    rw [hline, hkind] at hk
    cases hk
  · intro n hn hf
    have hdrop : (Document.ofText text).lines.drop 1 = _ := congrArg (List.drop 1) hlines
    refine line_eq_render hdrop hrest (fun l hl => hnewline l (List.mem_cons_of_mem _ hl)) ?_ hn hf
    have hbase : (Document.ofText text).depthBefore .sequence 2 = 1 := by
      rw [Document.depthBefore, hline]
      rfl
    rw [hbase]
    exact congrArg _ (congrArg _ htexts)

end Canonical

/-! ## Depth and stack -/

section Depth

variable {d : Document} {dialect : Dialect} {o : BlockOpening} {b : Block} {n : Nat}

/-- In a sequence diagram, the depth counts the blocks on the stack. -/
theorem depthBefore_sequence (d : Document) (n : Nat) :
    d.depthBefore .sequence n = (d.openedBefore .sequence n).length + 1 := by
  induction n with
  | zero => rfl
  | succ n ih =>
    have hrow : d.depthBefore .sequence (n + 1) =
        (LineKind.ofLine .sequence (d.line n)).bodyDepthBehind (d.depthBefore .sequence n) := rfl
    rw [hrow, ih]
    have hin : 1 < (d.openedBefore .sequence n).length + 1 ↔ d.openedBefore .sequence n ≠ [] := by
      rw [← List.length_pos_iff]
      omega
    rcases openedBefore_cases d .sequence n with ⟨kind, hk, hand, he⟩ | ⟨hend, he⟩ | ⟨hend, hno, he⟩
    · have hopen : ¬(kind = .and ∧ 1 < (d.openedBefore .sequence n).length + 1) := by
        rw [hin]
        exact fun h => h.2 (hand h.1)
      rw [hk, he, LineKind.bodyDepthBehind, if_neg hopen]
      rfl
    · rw [hend, he, LineKind.bodyDepthBehind, enclosingDepth, List.length_tail]
      omega
    · rw [he]
      cases hk : LineKind.ofLine .sequence (d.line n) with
      | blockEnd => exact absurd hk hend
      | blockStart kind => rw [LineKind.bodyDepthBehind, if_pos ⟨(hno kind hk).1, hin.mpr (hno kind hk).2⟩]
      | _ => rfl

/-- Behind the first line of a block, the depth and the height of the stack change alike, as long as the block stays
open and no header stands in between. -/
theorem depthBefore_add_flowchart (ho : o ∈ d.openedBefore .flowchart n)
    (hheader : ∀ k, o.line < k → k < n → LineKind.ofLine .flowchart (d.line k) ≠ .header) :
    d.depthBefore .flowchart n + (d.openedBefore .flowchart o.line).length =
      d.depthBefore .flowchart o.line + (d.openedBefore .flowchart n).length := by
  induction n with
  | zero => cases ho
  | succ n ih =>
    have hrow : d.depthBefore .flowchart (n + 1) =
        (LineKind.ofLine .flowchart (d.line n)).depthBehind (d.depthBefore .flowchart n) := rfl
    rcases mem_openedBefore_succ ho with hmem | ⟨rfl, _, hk⟩
    · have hlt := line_lt_of_mem_openedBefore hmem
      have ih' := ih hmem fun k h1 h2 => hheader k h1 (Nat.lt_succ_of_lt h2)
      rw [hrow]
      rcases openedBefore_flowchart_cases d n with ⟨hk, he⟩ | ⟨hend, he⟩ | ⟨hend, hno, he⟩
      · rw [hk, he, LineKind.depthBehind, List.length_cons]
        omega
      · -- The block lies below the one that closes here.
        obtain ⟨inner, hi, _⟩ := exists_inner ho
        have hlen := congrArg List.length hi
        rw [he, List.length_tail, List.length_append, List.length_cons] at hlen
        rw [hend, he, LineKind.depthBehind, List.length_tail]
        omega
      · rw [he]
        cases hk : LineKind.ofLine .flowchart (d.line n) with
        | blockEnd => exact absurd hk hend
        | header => exact absurd hk (hheader n hlt (Nat.lt_succ_self n))
        | blockStart kind => exact absurd hk (hno kind)
        | _ => exact ih'
    · rw [hrow, openedBefore_behind_opening ho, hk, LineKind.depthBehind, List.length_cons]
      omega

theorem depthBefore_add (ho : o ∈ d.openedBefore dialect n) (hheader : dialect = .flowchart →
      ∀ k, o.line < k → k < n → LineKind.ofLine dialect (d.line k) ≠ .header) :
    d.depthBefore dialect n + (d.openedBefore dialect o.line).length =
      d.depthBefore dialect o.line + (d.openedBefore dialect n).length := by
  cases dialect with
  | flowchart => exact depthBefore_add_flowchart ho (hheader rfl)
  | sequence =>
    rw [depthBefore_sequence, depthBefore_sequence]
    omega

/-- The first line of a block stands at the depth that it finds. -/
theorem rowDepth_first (ho : o ∈ d.openedBefore dialect n) :
    (dialect.row (d.depthBefore dialect o.line) (d.line o.line)).2.depth = d.depthBefore dialect o.line := by
  have hk := (opening_of_mem_openedBefore ho).2
  cases dialect with
  | flowchart =>
    show (LineKind.ofLine .flowchart (d.line o.line)).rowDepth _ = _
    rw [hk]
    rfl
  | sequence =>
    have hno : ¬(o.kind = .and ∧ 1 < d.depthBefore .sequence o.line) := by
      rintro ⟨hand, hin⟩
      rw [depthBefore_sequence, openedBefore_eq_nil_of_and ho hand] at hin
      exact Nat.lt_irrefl 1 hin
    show (LineKind.ofLine .sequence (d.line o.line)).bodyDepth _ = _
    rw [hk, LineKind.bodyDepth, if_neg hno]

/-- The last line of a block stands at the depth of its first line. -/
theorem rowDepth_last (hb : b ∈ d.closedBlocks dialect) (hheader : dialect = .flowchart →
      ∀ k, b.line < k → k < b.lastLine → LineKind.ofLine dialect (d.line k) ≠ .header) :
    (dialect.row (d.depthBefore dialect b.lastLine) (d.line b.lastLine)).2.depth = d.depthBefore dialect b.line := by
  have hadd := depthBefore_add (opening_mem_openedBefore hb) hheader
  rw [openedBefore_lastLine hb, List.length_cons] at hadd
  cases dialect with
  | flowchart =>
    show (LineKind.ofLine .flowchart (d.line b.lastLine)).rowDepth _ = _
    rw [ofLine_lastLine hb, LineKind.rowDepth]
    omega
  | sequence =>
    show (LineKind.ofLine .sequence (d.line b.lastLine)).bodyDepth _ = _
    rw [ofLine_lastLine hb, LineKind.bodyDepth, enclosingDepth]
    have := depthBefore_sequence d b.line
    omega

/-- A line parts the branches of a block in a sequence diagram. -/
def IsBranch (dialect : Dialect) (line : Text) : Prop :=
  dialect = .sequence ∧
    (LineKind.ofLine dialect line = .blockElse ∨ LineKind.ofLine dialect line = .blockStart .and)

instance (dialect : Dialect) (line : Text) : Decidable (IsBranch dialect line) :=
  inferInstanceAs (Decidable (_ ∧ _))

/-- The depth that the lines above a line leave, where `o` opens the innermost block around it. -/
theorem depthBefore_inside (hhead : (d.openedAround dialect n).head? = some o) (hheader : dialect = .flowchart →
      ∀ k, o.line < k → k < n → LineKind.ofLine dialect (d.line k) ≠ .header) :
    d.depthBefore dialect n = d.depthBefore dialect o.line +
      if LineKind.ofLine dialect (d.line n) = .blockEnd then 2 else 1 := by
  have hadd := depthBefore_add (mem_openedBefore_of_around (List.mem_of_mem_head? hhead)) hheader
  have hlen := congrArg List.length (openedAround_eq_cons hhead)
  unfold Document.openedAround at hlen
  split at hlen <;> rename_i hend
  · rw [List.length_tail, List.length_cons] at hlen
    rw [if_pos hend]
    omega
  · rw [List.length_cons] at hlen
    rw [if_neg hend]
    omega

/-- A line stands one level below the first line of the innermost block around it, unless it parts branches. -/
theorem rowDepth_inside (hhead : (d.openedAround dialect n).head? = some o) (hheader : dialect = .flowchart →
      ∀ k, o.line < k → k ≤ n → LineKind.ofLine dialect (d.line k) ≠ .header) :
    (dialect.row (d.depthBefore dialect n) (d.line n)).2.depth =
      d.depthBefore dialect o.line + if IsBranch dialect (d.line n) then 0 else 1 := by
  have hdepth := depthBefore_inside hhead fun h k h1 h2 => hheader h k h1 (Nat.le_of_lt h2)
  cases dialect with
  | flowchart =>
    have hlt := line_lt_of_mem_openedBefore (mem_openedBefore_of_around (List.mem_of_mem_head? hhead))
    have hno := hheader rfl n hlt (Nat.le_refl n)
    have hbranch : ¬IsBranch .flowchart (d.line n) := fun h => by cases h.1
    show (LineKind.ofLine .flowchart (d.line n)).rowDepth _ = _
    rw [hdepth, if_neg hbranch]
    cases hk : LineKind.ofLine .flowchart (d.line n) with
    | header => exact absurd hk hno
    | _ => rfl
  | sequence =>
    have hbase := depthBefore_sequence d o.line
    show (LineKind.ofLine .sequence (d.line n)).bodyDepth _ = _
    rw [hdepth]
    cases hk : LineKind.ofLine .sequence (d.line n) with
    | blockEnd => simp [LineKind.bodyDepth, enclosingDepth, IsBranch, hk]
    | blockElse =>
      rw [if_neg (by simp), if_pos ⟨rfl, Or.inl hk⟩, LineKind.bodyDepth, enclosingDepth]
      omega
    | blockStart kind =>
      by_cases hand : kind = .and
      · have hin : kind = .and ∧ 1 < d.depthBefore .sequence o.line + 1 := ⟨hand, by omega⟩
        rw [if_neg (by simp), if_pos ⟨rfl, Or.inr (by rw [hk, hand])⟩, LineKind.bodyDepth, if_pos hin, enclosingDepth]
        omega
      · simp [LineKind.bodyDepth, hand, IsBranch, hk]
    | _ => simp [LineKind.bodyDepth, IsBranch, hk]

end Depth

/-! ## Indentation -/

section Indentation

variable {dialect : Dialect} {text : Text} {b : Block} {k n w : Nat}

theorem exists_isLaidOut (hc : dialect.format (indentUnit w) text = text) :
    ∃ k, IsLaidOut (.ofText text) dialect (indentUnit w) k := by
  cases dialect with
  | flowchart => exact ⟨0, isLaidOut_flowchart hc⟩
  | sequence => exact ⟨1, isLaidOut_sequence hc⟩

/-- The indentation of a line is that of its depth. -/
theorem indentation_line (h : IsLaidOut (.ofText text) dialect (indentUnit w) k) (hn : k < n)
    (hk : LineKind.ofLine dialect ((Document.ofText text).line n) ≠ .blank) :
    indentation ((Document.ofText text).line n) = (List.replicate
      (dialect.row ((Document.ofText text).depthBefore dialect n) ((Document.ofText text).line n)).2.depth
      (indentUnit w)).flatten := by
  have hline := newline_not_mem_line (d := .ofText text) (fun _ hl => newline_not_mem_lines hl) n
  have hf : isFilled ((Document.ofText text).line n) = true := isFilled_of_kind hline rfl hk
  have htight := isTight_row dialect (isTight_trim hline (isFilled_iff.mp hf))
    ((Document.ofText text).depthBefore dialect n)
  rw [row_trim] at htight
  have heq := congrArg indentation (h.line_eq n hn hf)
  rwa [indentation_render (isGap_indentUnit w) htight] at heq

/-- **The indentation of a canonical text tells the blocks.** The last line of the innermost block around a line has the
indentation of the first. The line itself, if it is not blank, stands one unit further in, or in line with the block
where it parts its branches. In a flowchart, no header stands in the block. -/
theorem indentation_of_enclosingBlock? (hc : dialect.format (indentUnit w) text = text)
    (hb : (Document.ofText text).enclosingBlock? dialect n = some b)
    (hheader : dialect = .flowchart → ∀ k, b.line < k → k < b.lastLine →
      LineKind.ofLine dialect ((Document.ofText text).line k) ≠ .header) :
    indentation ((Document.ofText text).line b.lastLine) = b.indent ∧
    (LineKind.ofLine dialect ((Document.ofText text).line n) ≠ .blank →
      indentation ((Document.ofText text).line n) =
        if IsBranch dialect ((Document.ofText text).line n) then b.indent else b.indent ++ indentUnit w) := by
  obtain ⟨k, hlaid⟩ := exists_isLaidOut hc
  obtain ⟨hclosed, hhead⟩ := enclosingBlock?_eq_some_iff.mp hb
  have hopen := opening_mem_openedBefore hclosed
  obtain ⟨hindent, hkind⟩ := opening_of_mem_openedBefore hopen
  have htop : k < b.line := Nat.lt_of_not_le fun hle => hlaid.top b.line hle _ hkind
  have hmem := List.mem_of_mem_head? hhead
  have hfirst := line_lt_of_mem_openedBefore (mem_openedBefore_of_around hmem)
  have hlast := lt_lastLine_of_mem hclosed (mem_openedBefore_succ_of_around hmem)
  have hb : b.indent = (List.replicate ((Document.ofText text).depthBefore dialect b.line) (indentUnit w)).flatten := by
    rw [hindent, indentation_line hlaid htop (by simp [hkind]), rowDepth_first hopen]
  constructor
  · rw [indentation_line hlaid (by omega) (by simp [ofLine_lastLine hclosed]),
      rowDepth_last hclosed hheader, hb]
  · intro hn
    rw [indentation_line hlaid (by omega) hn,
      rowDepth_inside hhead fun h k h1 h2 => hheader h k h1 (Nat.lt_of_le_of_lt h2 hlast), hb]
    split
    · rfl
    · rw [List.replicate_succ', List.flatten_concat]

theorem indentation_of_subgraph :
    indentation ((Document.ofText "flowchart LR\n  subgraph A\n    a[X]\n  end\n".toList).line 4) = "  ".toList ∧
    indentation ((Document.ofText "flowchart LR\n  subgraph A\n    a[X]\n  end\n".toList).line 3) = "    ".toList := by
  have hc : Dialect.format .flowchart (indentUnit 2) "flowchart LR\n  subgraph A\n    a[X]\n  end\n".toList =
      "flowchart LR\n  subgraph A\n    a[X]\n  end\n".toList := by decide +kernel
  have hb : (Document.ofText "flowchart LR\n  subgraph A\n    a[X]\n  end\n".toList).enclosingBlock? .flowchart 3 =
      some ⟨⟨2, "  ".toList, .subgraph⟩, 4⟩ := by decide +kernel
  have h := indentation_of_enclosingBlock? hc hb fun _ k h1 h2 => by
    obtain rfl : k = 3 := by
      dsimp only at h1 h2
      omega
    decide +kernel
  exact ⟨h.1, h.2 (by decide +kernel)⟩

end Indentation

end DiagramText
