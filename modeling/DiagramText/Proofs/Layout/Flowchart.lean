import DiagramText.CommandLine.Answer
import DiagramText.Proofs.Layout.FlowchartRow

/-!
# The layout of a flowchart

- The layout changes nothing but blanks, and keeps every line and the blank lines between lines, one of each run
  (`formatFlowchart_keeps_lines`);
- a second pass gives each row its text again, but may give it another depth: this happens where a row has become a
  header or the opening of a block (`StaysPut`). Two passes are followed step by step, at the same depth or one level
  apart (`aligned_iff`), which tells exactly when the second changes nothing
  (`formatFlowchart_eq_self_iff`), and so when the check of a formatted file succeeds.
-/

namespace DiagramText

open Text

/-! ## One pass -/

section Pass

variable {text line : Text} {depth : Nat}

/-- The bodies of a text. -/
theorem isTight_of_mem_squeeze (h : some line ∈ squeeze (bodies (lines text))) : IsTight line :=
  isTight_of_mem_bodies (fun _ hl => newline_not_mem_lines hl) (some_mem_squeeze.mp h)

theorem squeeze_flowchartPage (text : Text) :
    squeeze (flowchartPage 0 (lines text)) = threaded flowchartRow 0 (squeeze (bodies (lines text))) := by
  rw [flowchartPage_eq_threaded (fun _ hl => newline_not_mem_lines hl), squeeze_threaded]

/-- The rows of a pass have the texts of their lines. -/
theorem map_text_threaded (xs : List (Option Text)) (depth : Nat) :
    (threaded flowchartRow depth xs).map (·.map Row.text) = xs.map (·.map flowchartText) := by
  have htext : ∀ depth line, (flowchartRow depth line).2.text = flowchartText line := fun _ _ => rfl
  exact map_threaded htext xs depth

/-- The rows of a flowchart are tight. -/
theorem isTight_of_mem_flowchartPage {row : Row} (h : some row ∈ flowchartPage 0 (lines text)) : IsTight row.text := by
  have hmem : some row.text ∈ (squeeze (flowchartPage 0 (lines text))).map (·.map Row.text) :=
    List.mem_map.mpr ⟨some row, some_mem_squeeze.mpr h, rfl⟩
  rw [squeeze_flowchartPage, map_text_threaded] at hmem
  obtain ⟨x, hx, hrow⟩ := List.mem_map.mp hmem
  obtain ⟨line, rfl, hline⟩ := Option.map_eq_some_iff.mp hrow
  rw [← hline]
  exact isTight_flowchartText (isTight_of_mem_squeeze hx)

/-- The bodies of a formatted flowchart are the texts of its rows. -/
theorem squeeze_bodies_formatFlowchart (w : Nat) (text : Text) :
    squeeze (bodies (lines (formatFlowchart (indentUnit w) text))) =
      (squeeze (bodies (lines text))).map (·.map flowchartText) := by
  rw [formatFlowchart, squeeze_bodies_render (isGap_indentUnit w) (newline_not_mem_indentUnit w)
    (fun row hr => isTight_of_mem_flowchartPage hr), squeeze_flowchartPage, map_text_threaded]

/-- A second pass gives each row its text again. -/
theorem map_text_formatFlowchart (w : Nat) (text : Text) :
    (squeeze (flowchartPage 0 (lines (formatFlowchart (indentUnit w) text)))).map (·.map Row.text) =
      (squeeze (flowchartPage 0 (lines text))).map (·.map Row.text) := by
  rw [squeeze_flowchartPage, squeeze_flowchartPage, map_text_threaded, map_text_threaded,
    squeeze_bodies_formatFlowchart, List.map_map]
  refine List.map_congr_left fun x hx => ?_
  cases x with
  | none => rfl
  | some line => exact congrArg some (flowchartText_flowchartText (isTight_of_mem_squeeze hx))

/-- **The layout of a flowchart changes nothing but blanks.** The lines of the result that hold more than blanks are
those of the text in their order, up to blanks; one blank line stands between two of them where any did before; none
stands at the start or at the end. A text of blanks becomes a single newline. -/
theorem formatFlowchart_keeps_lines (w : Nat) (text : Text) :
    ∃ rows, formatFlowchart (indentUnit w) text = unlines rows ++ ['\n'] ∧ (∀ row ∈ rows, '\n' ∉ row) ∧
      (rows.filter isFilled).map dense = ((lines text).filter isFilled).map dense ∧
      gaps (marks (fun _ => true) rows) = (gaps (marks (fun _ => true) (lines text))).map (min · 1) ∧
      (∀ row, rows.head? = some row → isFilled row = true) ∧ ∀ row, rows.getLast? = some row → isFilled row = true := by
  have hgap := isGap_indentUnit w
  have htight : ∀ row, some row ∈ flowchartPage 0 (lines text) → IsTight row.text :=
    fun row hr => isTight_of_mem_flowchartPage hr
  have hbodies : bodies (Page.rows (indentUnit w) (flowchartPage 0 (lines text))) =
      (squeeze (bodies (lines text))).map (·.map flowchartText) := by
    rw [bodies_rows hgap htight, squeeze_flowchartPage, map_text_threaded]
  refine ⟨Page.rows (indentUnit w) (flowchartPage 0 (lines text)), rfl,
    newline_not_mem_rows (newline_not_mem_indentUnit w) htight, ?_, ?_, fun row hr => isFilled_head_rows hgap htight hr,
    fun row hr => isFilled_last_rows hgap htight hr⟩
  · have hdense : ∀ ls : List Text, (ls.filter isFilled).map dense = ((bodies ls).filterMap id).map dense := by
      intro ls
      rw [entries_bodies, List.map_map]
      exact List.map_congr_left fun line _ => (dense_trim line).symm
    rw [hdense, hdense, hbodies, entries_map, entries_squeeze, List.map_map]
    refine List.map_congr_left fun line hl => ?_
    have hmem : some line ∈ bodies (lines text) := by simpa using hl
    exact dense_flowchartText (isTight_of_mem_bodies (fun _ h => newline_not_mem_lines h) hmem).newline
  · rw [gaps_marks, gaps_marks, hbodies, gaps_map, gaps_squeeze]

end Pass

/-! ## Two passes -/

/-- The depth that lines of a flowchart leave. -/
def depthBehind (depth : Nat) (lines : List Text) : Nat :=
  lines.foldl (fun depth line => (LineKind.ofLine .flowchart line).depthBehind depth) depth

/-- Whether the line that follows a depth, if there is one, stands at that depth and also one level deeper. -/
def Levels (depth : Nat) (next : Option Text) : Prop :=
  ∀ line, next = some line → LineKind.ofLine .flowchart line = .header ∨
    depth = 0 ∧ (LineKind.ofLine .flowchart line = .blockEnd ∨ isHeaderEdge line = true)

/-- Whether a line at a given depth, and the line that follows it, keep their place when the line is read again. -/
structure StaysPut (depth : Nat) (line : Text) (next : Option Text) : Prop where
  header : isHeaderEdge line = true → depth = 0
  levels : isHeaderEdge line = true ∨ isBlockEdge line = true → Levels depth next

/-- Whether all lines of a flowchart keep their place, where the first is at a given depth. -/
def Settled (depth : Nat) (lines : List Text) : Prop :=
  ∀ before line behind, lines = before ++ line :: behind → StaysPut (depthBehind depth before) line behind.head?

section Settled

variable {line : Text} {rest : List Text} {depth : Nat}

theorem settled_nil (depth : Nat) : Settled depth [] := by
  intro before line behind h
  cases before <;> cases h

theorem settled_cons : Settled depth (line :: rest) ↔
    StaysPut depth line rest.head? ∧ Settled ((LineKind.ofLine .flowchart line).depthBehind depth) rest := by
  constructor
  · intro h
    exact ⟨h [] line rest rfl, fun before l behind he => h (line :: before) l behind (by rw [he]; rfl)⟩
  · rintro ⟨h, hrest⟩ before l behind he
    cases before with
    | nil =>
      cases he
      exact h
    | cons b before =>
      cases he
      exact hrest before l behind rfl

theorem kind_of_edge (h : isHeaderEdge line = true ∨ isBlockEdge line = true) :
    LineKind.ofLine .flowchart line = .declaration ∨ LineKind.ofLine .flowchart line = .statement := by
  cases he : mendedEdge? line with
  | none => simp [isHeaderEdge, isBlockEdge, hasSource, he] at h
  | some e => exact (mendedEdge?_eq_some_iff.mp he).1

/-- An edge stands at the depth that it finds, and leaves it. -/
theorem depth_of_edge (h : isHeaderEdge line = true ∨ isBlockEdge line = true) (depth : Nat) :
    (LineKind.ofLine .flowchart line).rowDepth depth = depth ∧
      (LineKind.ofLine .flowchart line).depthBehind depth = depth := by
  rcases kind_of_edge h with hk | hk <;> rw [hk] <;> exact ⟨rfl, rfl⟩

theorem levels_some_iff : Levels depth (some line) ↔ LineKind.ofLine .flowchart line = .header ∨
    depth = 0 ∧ (LineKind.ofLine .flowchart line = .blockEnd ∨ isHeaderEdge line = true) :=
  ⟨fun h => h line rfl, fun h l hl => by cases hl; exact h⟩

end Settled

/-- Whether a second pass puts the rows where the first one put the lines, where the passes start at given depths. -/
def Aligned (depth depth' : Nat) (xs : List (Option Text)) : Prop :=
  threaded flowchartRow depth xs = threaded flowchartRow depth' (xs.map (·.map flowchartText))

section TwoPasses

variable {line : Text} {next : Option Text} {xs : List (Option Text)} {d d' : Nat}

/-- Two passes agree on a line where they put it at the same depth, and then agree on what follows it. -/
theorem aligned_cons_iff (h : IsTight line) : Aligned d d' (some line :: xs) ↔
    (LineKind.ofLine .flowchart line).rowDepth d = (LineKind.ofLine .flowchart (flowchartText line)).rowDepth d' ∧
      Aligned ((LineKind.ofLine .flowchart line).depthBehind d)
        ((LineKind.ofLine .flowchart (flowchartText line)).depthBehind d') xs := by
  simp only [Aligned, List.map_cons, Option.map_some, threaded, flowchartRow, flowchartText_flowchartText h,
    List.cons.injEq, Option.some.injEq, Row.mk.injEq, and_true]

theorem aligned_none_iff : Aligned d d' (none :: xs) ↔ Aligned d d' xs := by
  simp [Aligned, threaded]

/-- An edge that becomes a header stays at depth zero only; the second pass then goes on one level deeper. -/
theorem aligned_headerEdge_iff (h : IsTight line) (hedge : isHeaderEdge line = true) :
    Aligned d d' (some line :: xs) ↔ d = 0 ∧ Aligned d 1 xs := by
  have hdepth := depth_of_edge (Or.inl hedge) d
  rw [aligned_cons_iff h, hdepth.1, hdepth.2, ofLine_of_isHeaderEdge h hedge]
  rfl

/-- Behind an edge that opens a block now, the second pass goes on one level deeper. -/
theorem aligned_blockEdge_iff (h : IsTight line) (hedge : isBlockEdge line = true) :
    Aligned d d' (some line :: xs) ↔ d = d' ∧ Aligned d (d' + 1) xs := by
  have hdepth := depth_of_edge (Or.inr hedge) d
  rw [aligned_cons_iff h, hdepth.1, hdepth.2, ofLine_of_isBlockEdge h hedge]
  rfl

/-- The second pass treats any other line as the first one did. -/
theorem aligned_other_iff (h : IsTight line) (hheader : isHeaderEdge line = false) (hblock : isBlockEdge line = false) :
    Aligned d d' (some line :: xs) ↔
      (LineKind.ofLine .flowchart line).rowDepth d = (LineKind.ofLine .flowchart line).rowDepth d' ∧
        Aligned ((LineKind.ofLine .flowchart line).depthBehind d)
          ((LineKind.ofLine .flowchart line).depthBehind d') xs := by
  have hkind := layoutKind_flowchartText h hheader hblock d'
  rw [aligned_cons_iff h, hkind.1, hkind.2]

theorem staysPut_headerEdge_iff (hedge : isHeaderEdge line = true) :
    StaysPut d line next ↔ d = 0 ∧ Levels d next :=
  ⟨fun h => ⟨h.header hedge, h.levels (Or.inl hedge)⟩, fun h => ⟨fun _ => h.1, fun _ => h.2⟩⟩

theorem staysPut_blockEdge_iff (hheader : isHeaderEdge line = false) (hedge : isBlockEdge line = true) :
    StaysPut d line next ↔ Levels d next := by
  refine ⟨fun h => h.levels (Or.inr hedge), fun h => ⟨fun h' => ?_, fun _ => h⟩⟩
  rw [hheader] at h'
  cases h'

theorem staysPut_other (hheader : isHeaderEdge line = false) (hblock : isBlockEdge line = false) :
    StaysPut d line next := by
  refine ⟨fun h => ?_, fun h => ?_⟩
  · rw [hheader] at h
    cases h
  · rw [hheader, hblock] at h
    rcases h with h | h <;> cases h

/-- A line that is no edge stands at a depth and one level deeper only where it is a header, or closes a block at depth
zero. -/
theorem rowDepth_eq_succ_iff (kind : LineKind) (d : Nat) :
    kind.rowDepth d = kind.rowDepth (d + 1) ↔ kind = .header ∨ d = 0 ∧ kind = .blockEnd := by
  cases kind with
  | header => exact iff_of_true rfl (Or.inl rfl)
  | blockEnd =>
    have : LineKind.blockEnd.rowDepth d = d - 1 := rfl
    have : LineKind.blockEnd.rowDepth (d + 1) = d := rfl
    simp only [reduceCtorEq, false_or, and_true]
    omega
  | _ =>
    refine iff_of_false ?_ (by simp)
    show ¬d = d + 1
    omega

/-- The passes agree from the same depth, or with the second one level deeper, exactly where the lines keep their
place. -/
theorem aligned_iff (hx : ∀ line, some line ∈ xs → IsTight line) (d : Nat) :
    (Aligned d d xs ↔ Settled d (xs.filterMap id)) ∧
    (Aligned d (d + 1) xs ↔ Levels d (xs.filterMap id).head? ∧ Settled d (xs.filterMap id)) := by
  induction xs generalizing d with
  | nil => exact ⟨iff_of_true rfl (settled_nil d), iff_of_true rfl ⟨fun _ h => (by cases h), settled_nil d⟩⟩
  | cons x xs ih =>
    have ih' := fun d => ih (fun line hl => hx line (List.mem_cons_of_mem x hl)) d
    cases x with
    | none => exact ⟨aligned_none_iff.trans (ih' d).1, aligned_none_iff.trans (ih' d).2⟩
    | some line =>
      have htight : IsTight line := hx line List.mem_cons_self
      have hmap : (some line :: xs).filterMap id = line :: xs.filterMap id := rfl
      rw [hmap, settled_cons, List.head?_cons, levels_some_iff]
      cases hheader : isHeaderEdge line with
      | true =>
        rw [aligned_headerEdge_iff htight hheader, aligned_headerEdge_iff htight hheader,
          staysPut_headerEdge_iff hheader, (depth_of_edge (Or.inl hheader) d).2]
        by_cases hd : d = 0
        · subst hd
          simp only [true_and, or_true]
          exact ⟨(ih' 0).2, (ih' 0).2⟩
        · simp [hd]
      | false =>
        cases hblock : isBlockEdge line with
        | true =>
          rw [aligned_blockEdge_iff htight hblock, aligned_blockEdge_iff htight hblock,
            staysPut_blockEdge_iff hheader hblock, (depth_of_edge (Or.inr hblock) d).2]
          refine ⟨(and_iff_right rfl).trans (ih' d).2, iff_of_false (fun h => ?_) fun h => ?_⟩
          · exact absurd h.1 (Nat.ne_of_lt (Nat.lt_succ_self d))
          · rcases kind_of_edge (Or.inr hblock) with hk | hk <;> simp [hk] at h
        | false =>
          rw [aligned_other_iff htight hheader hblock, aligned_other_iff htight hheader hblock, rowDepth_eq_succ_iff]
          simp only [staysPut_other hheader hblock, Bool.false_eq_true, or_false, true_and]
          refine ⟨(ih' _).1, and_congr_right fun hk => ?_⟩
          -- Both passes are at the same depth again.
          rcases hk with hk | ⟨rfl, hk⟩
          · rw [hk]
            exact (ih' 1).1
          · rw [hk]
            exact (ih' 0).1

end TwoPasses

section Settled

variable {line : Text}

theorem staysPut_trim (depth : Nat) (line : Text) (next : Option Text) :
    StaysPut depth (trim line) (next.map trim) ↔ StaysPut depth line next := by
  have hheader : ∀ l, isHeaderEdge (trim l) = isHeaderEdge l := fun l => by
    rw [isHeaderEdge, isHeaderEdge, hasSource, hasSource, mendedEdge?_trim]
  have hblock : isBlockEdge (trim line) = isBlockEdge line := by
    rw [isBlockEdge, isBlockEdge, hasSource, hasSource, mendedEdge?_trim]
  have hlevels : Levels depth (next.map trim) ↔ Levels depth next := by
    cases next with
    | none => exact iff_of_true (fun _ h => by cases h) (fun _ h => by cases h)
    | some l => rw [Option.map_some, levels_some_iff, levels_some_iff, ofLine_trim, hheader]
  constructor
  · rintro ⟨h1, h2⟩
    rw [hheader, hblock, hlevels] at *
    exact ⟨h1, h2⟩
  · rintro ⟨h1, h2⟩
    refine ⟨?_, ?_⟩
    · rwa [hheader]
    · rwa [hheader, hblock, hlevels]

/-- Lines keep their place where no edge has a keyword for its source. -/
theorem settled_of_no_keyword {lines : List Text}
    (h : ∀ line ∈ lines, isHeaderEdge line = false ∧ isBlockEdge line = false) (depth : Nat) : Settled depth lines := by
  intro before line behind he
  have hline := h line (by rw [he]; simp)
  refine ⟨fun h' => ?_, fun h' => ?_⟩
  · rw [hline.1] at h'
    cases h'
  · rw [hline.1, hline.2] at h'
    rcases h' with h' | h' <;> cases h'

/-- The blanks around lines do not matter for their place. -/
theorem settled_map_trim (lines : List Text) (depth : Nat) : Settled depth (lines.map trim) ↔ Settled depth lines := by
  induction lines generalizing depth with
  | nil => exact iff_of_true (settled_nil depth) (settled_nil depth)
  | cons line lines ih =>
    rw [List.map_cons, settled_cons, settled_cons, ofLine_trim, ih, List.head?_map, staysPut_trim]

/-- A second pass over a flowchart changes nothing exactly where all lines keep their place, or no level of indentation
shows. -/
theorem formatFlowchart_eq_self_iff (w : Nat) (text : Text) :
    formatFlowchart (indentUnit w) (formatFlowchart (indentUnit w) text) = formatFlowchart (indentUnit w) text ↔
      w = 0 ∨ Settled 0 ((lines text).filter isFilled) := by
  have hbodies := squeeze_bodies_formatFlowchart w text
  generalize hxs : squeeze (bodies (lines text)) = xs at hbodies
  have hx : ∀ line, some line ∈ xs → IsTight line := by
    rw [← hxs]
    exact fun line hl => isTight_of_mem_squeeze hl
  have hfirst : squeeze (flowchartPage 0 (lines text)) = threaded flowchartRow 0 xs := by
    rw [squeeze_flowchartPage, hxs]
  have hsecond : squeeze (flowchartPage 0 (lines (formatFlowchart (indentUnit w) text))) =
      threaded flowchartRow 0 (xs.map (·.map flowchartText)) := by
    rw [squeeze_flowchartPage, hbodies]
  have hentries : xs.filterMap id = ((lines text).filter isFilled).map trim := by
    rw [← hxs, entries_squeeze, entries_bodies]
  have hrender := render_eq_render_iff (w := w) (fun row hr => isTight_of_mem_flowchartPage hr)
    (fun row hr => isTight_of_mem_flowchartPage hr) (map_text_formatFlowchart w text)
  rw [hfirst, hsecond] at hrender
  rw [← settled_map_trim, ← hentries, ← (aligned_iff hx 0).1, Aligned, eq_comm (b := threaded _ _ (List.map _ _))]
  exact hrender

end Settled

/-! ## The dialect of a formatted flowchart -/

section Detection

variable {text line : Text} {word : Text}

/-- The first line of a text that holds more than blanks decides about its dialect. -/
theorem detect?_eq_some_flowchart_iff (text : Text) : Dialect.detect? text = some .flowchart ↔
    ∃ line, ((bodies (lines text)).filterMap id).head? = some line ∧
      ((after? "flowchart".toList (asciiLower line)).isSome ||
        (after? "graph".toList (asciiLower line)).isSome) = true := by
  rw [Dialect.detect?, find?_map_trim]
  cases ((bodies (lines text)).filterMap id).head? with
  | none => simp
  | some first =>
    simp only [Option.some.injEq, exists_eq_left']
    split
    · next h => exact iff_of_true rfl h
    · next h =>
      refine iff_of_false ?_ h
      split <;> simp

/-- A text whose first line is the header of a flowchart is one. -/
theorem detect?_of_header (hline : ((bodies (lines text)).filterMap id).head? = some line)
    (hk : LineKind.ofLine .flowchart line = .header) : Dialect.detect? text = some .flowchart := by
  have hmem : some line ∈ bodies (lines text) := by simpa using List.mem_of_head? hline
  have htight : IsTight line := isTight_of_mem_bodies (fun _ hl => newline_not_mem_lines hl) hmem
  have hheader : isFlowchartHeader line = true := by
    rw [ofLine_flowchart htight] at hk
    repeat' split at hk
    all_goals first
      | assumption
      | cases hk
  refine (detect?_eq_some_flowchart_iff text).mpr ⟨line, hline, ?_⟩
  rw [isFlowchartHeader, Bool.or_eq_true, Bool.or_eq_true] at hheader
  rw [Bool.or_eq_true, Option.isSome_iff_exists, Option.isSome_iff_exists]
  rcases hheader with (h | h) | h
  · exact Or.inl (after?_asciiLower (startsWithLower_of_startsWithKeyword h) (by decide))
  · exact Or.inr (after?_asciiLower (startsWithLower_of_startsWithKeyword h) (by decide))
  · obtain ⟨rest, hr⟩ := after?_asciiLower h (by decide)
    rw [after?_eq_some_iff] at hr
    exact Or.inl ⟨'-' :: rest, after?_eq_some_iff.mpr hr⟩

/-- The letters of a header's words are no blanks, and no arrow starts with one. -/
theorem letters_of_headerWord (hw : word = "flowchart".toList ∨ word = "graph".toList) {c : Char} (hc : c ∈ word) :
    isBlank c = false ∧ c ∉ ['-', '=', '.', '<'] := by
  have hall : (word.all fun c => !isBlank c && !(['-', '=', '.', '<'].contains c)) = true := by
    rcases hw with rfl | rfl <;> decide
  simpa using List.all_eq_true.mp hall c hc

/-- No end of a header's word is the start of an arrow. -/
theorem eq_nil_of_asciiLower_arrow {form : ArrowForm} {arrow read m behind rest : Text} (hd : form.Draws arrow)
    (hf : form ∈ Edge.arrows) (hw : word = "flowchart".toList ∨ word = "graph".toList) (hword : word = read ++ m)
    (he : asciiLower arrow ++ behind = m ++ rest) : m = [] := by
  cases m with
  | nil => rfl
  | cons c m =>
    exfalso
    obtain ⟨a, t, harrow, ha⟩ := hd.head hf
    rw [harrow] at he
    have hac : a.toLower = c := (List.cons.inj he).1
    rcases ha with ha | ⟨ha, ht⟩
    · have hlow : (['-', '=', '.', '<'].all fun a => a.toLower == a) = true := by decide
      rw [eq_of_beq (List.all_eq_true.mp hlow a ha)] at hac
      exact (letters_of_headerWord hw (by rw [hword]; simp)).2 (hac ▸ ha)
    · -- Neither word ends in `o` or `x`, so the dash behind it would be one of its letters.
      obtain ⟨t', rfl⟩ := List.head?_eq_some_iff.mp ht
      cases m with
      | nil =>
        have hlast : word.getLast? ≠ some a.toLower := by
          rcases ha with rfl | rfl <;> rcases hw with rfl | rfl <;> decide
        rw [hword, ← hac, List.getLast?_append] at hlast
        exact hlast rfl
      | cons d m =>
        have hd' : d = '-' := ((List.cons.inj (List.cons.inj he).2).1).symm
        exact (letters_of_headerWord (c := d) hw (by rw [hword]; simp)).2 (by rw [hd']; decide)

/-- A word of the header at the start of an edge is within its source: no arrow goes on where such a word does. -/
theorem after?_asciiLower_toText {e : Edge} (h : IsTail line) (he : Edge.ofText? line = some e)
    (hw : word = "flowchart".toList ∨ word = "graph".toList) (hs : (after? word (asciiLower line)).isSome = true) :
    (after? word (asciiLower e.toText)).isSome = true := by
  obtain ⟨_, ⟨form, hf, hd⟩, g0, g1, g2, hg0, _, _, hline⟩ := Edge.ofText?_eq_spaced h he
  obtain ⟨r, hr⟩ := Option.isSome_iff_exists.mp hs
  have hwithin : ∀ m, asciiLower e.source = word ++ m → (after? word (asciiLower e.toText)).isSome = true := by
    intro m hm
    rw [Edge.toText_eq_spaced, Edge.spaced]
    simp only [asciiLower, List.map_append] at hm ⊢
    rw [hm]
    simp only [List.append_assoc, after?_append, Option.isSome_some]
  rw [after?_eq_some_iff, hline] at hr
  simp only [Edge.spaced, asciiLower, List.map_append, List.append_assoc] at hr
  rcases List.append_eq_append_iff.mp hr with ⟨m, hword, hrest⟩ | ⟨m, hsource, _⟩
  · have hm : m = [] := by
      cases g0 with
      | nil => exact eq_nil_of_asciiLower_arrow hd hf hw hword hrest
      | cons b g0 =>
        cases m with
        | nil => rfl
        | cons c m =>
          have hb : isBlank b.toLower = true := (isBlank_toLower b).trans (hg0 b List.mem_cons_self)
          rw [(List.cons.inj hrest).1, (letters_of_headerWord (c := c) hw (by rw [hword]; simp)).1] at hb
          cases hb
    exact hwithin [] (by rw [hword, hm, List.append_nil, List.append_nil]; rfl)
  · exact hwithin m hsource

/-- A formatted flowchart still is one. -/
theorem detect?_formatFlowchart (w : Nat) (h : Dialect.detect? text = some .flowchart) :
    Dialect.detect? (formatFlowchart (indentUnit w) text) = some .flowchart := by
  obtain ⟨line, hline, hword⟩ := (detect?_eq_some_flowchart_iff text).mp h
  have hentries : (bodies (lines (formatFlowchart (indentUnit w) text))).filterMap id =
      ((bodies (lines text)).filterMap id).map flowchartText := by
    rw [← entries_squeeze, squeeze_bodies_formatFlowchart, entries_map, entries_squeeze]
  refine (detect?_eq_some_flowchart_iff _).mpr ⟨flowchartText line, ?_, ?_⟩
  · rw [hentries, List.head?_map, hline]
    rfl
  · have hmem : some line ∈ bodies (lines text) := by
      have := List.mem_of_head? hline
      simpa using this
    have htight : IsTight line := isTight_of_mem_bodies (fun _ hl => newline_not_mem_lines hl) hmem
    rw [flowchartText_eq]
    split
    · next e he =>
      have hread := (mendedEdge?_eq_some_iff.mp he).2
      rw [htight.trim_eq] at hread
      rw [Bool.or_eq_true] at hword ⊢
      exact hword.imp (after?_asciiLower_toText htight.toIsTail hread (Or.inl rfl))
        (after?_asciiLower_toText htight.toIsTail hread (Or.inr rfl))
    · rw [htight.trim_eq]
      exact hword

end Detection

/-! ## A formatted flowchart -/

section Check

open CommandLine

/-- **When the layout of a flowchart is a fixed point.** A second pass over a flowchart changes nothing exactly where
all its lines keep their place, or no level of indentation shows; and the same decides whether the check of a formatted
flowchart succeeds. -/
theorem formatFlowchart_formatFlowchart_iff (w : Nat) (text : Text) :
    (formatFlowchart (indentUnit w) (formatFlowchart (indentUnit w) text) = formatFlowchart (indentUnit w) text ↔
      w = 0 ∨ Settled 0 ((lines text).filter isFilled)) ∧
    ∀ (dialect : Dialect) (s : Surroundings) (file : Option Text), Dialect.detect? text = some .flowchart →
      s.text file = .ok (prettify (indentUnit w) text) →
      ((Job.format file true).output ⟨w, dialect⟩ s = .ok [] ↔ w = 0 ∨ Settled 0 ((lines text).filter isFilled)) := by
  refine ⟨formatFlowchart_eq_self_iff w text, fun dialect s file hdetect htext => ?_⟩
  have hagain := detect?_formatFlowchart w hdetect
  rw [← formatFlowchart_eq_self_iff]
  simp only [prettify, hdetect] at htext
  simp only [Job.output, htext, Settings.unit]
  show (if prettify _ _ = _ then _ else _) = _ ↔ _
  simp only [prettify, hagain]
  split
  · next h => exact iff_of_true rfl h
  · next h => exact iff_of_false (fun h' => by cases h') h

/-- The check of a formatted flowchart succeeds where an edge has a node for its source. -/
theorem check_formatted_flowchart :
    (Job.format none true).output ⟨2, .flowchart⟩
      ⟨fun _ => none, .ok (prettify (indentUnit 2) "flowchart LR\na-->b\n".toList), fun _ => .error .notFound⟩ =
        .ok [] :=
  ((formatFlowchart_formatFlowchart_iff 2 "flowchart LR\na-->b\n".toList).2 .flowchart _ none (by decide +kernel)
    rfl).mpr (Or.inr (settled_of_no_keyword (by decide +kernel) 0))

/-- An edge whose source is a keyword of the header becomes one, and moves to depth zero. -/
theorem formatFlowchart_keyword_source :
    Dialect.detect? "flowchart LR\ngraph-->b\n".toList = some .flowchart ∧
    formatFlowchart (indentUnit 2) (formatFlowchart (indentUnit 2) "flowchart LR\ngraph-->b\n".toList) ≠
      formatFlowchart (indentUnit 2) "flowchart LR\ngraph-->b\n".toList := by
  decide +kernel

end Check

end DiagramText
