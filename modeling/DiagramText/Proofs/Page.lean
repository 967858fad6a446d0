import DiagramText.Layout
import DiagramText.Proofs.Squeeze
import DiagramText.Proofs.Text.Trim

/-!
# Lines and pages

- `marks` restricts lines to those that pass a test, with `none` for each blank line, and `bodies` trims the lines;
- the lines of joined rows are the rows (`trim_lines_unlines`), so the bodies of a rendered page are the texts of its
  rows (`squeeze_bodies_render`);
- pages with the same texts that render alike have the same rows, unless no level of indentation shows
  (`render_eq_render_iff`).
-/

namespace DiagramText

open Text

/-- The lines that pass a test, and `none` for each blank line. -/
def marks (holds : Text → Bool) (lines : List Text) : List (Option Text) :=
  lines.filterMap fun line => if isFilled line then (if holds line then some (some line) else none) else some none

/-- The lines without the blanks around them, and `none` for each blank line. -/
def bodies (lines : List Text) : List (Option Text) :=
  lines.map fun line => if isFilled line then some (trim line) else none

/-! ## Lines -/

section Lines

variable {text gap : Text} {rows : List Text}

theorem trim_append_gap (h : IsGap gap) (text : Text) : trim (text ++ gap) = trim text := by
  by_cases hs : trimStart text = []
  · have ht : IsGap text := trimStart_eq_nil_iff.mp hs
    rw [trim_eq_nil_iff.mpr ht, trim_eq_nil_iff.mpr (isGap_append.mpr ⟨ht, h⟩)]
  · rw [trim, trimStart_append_of_ne_nil hs, trimEnd_append_gap h]
    rfl

/-- The carriage return at the end of a piece is a blank. -/
theorem trim_withoutReturn (piece : Text) : trim (withoutReturn piece) = trim piece := by
  unfold withoutReturn
  split
  · next h =>
    have hg : IsGap ['\r'] := by
      intro c hc
      rw [List.mem_singleton.mp hc]
      decide
    have hne : piece ≠ [] := by
      rintro rfl
      cases h
    have hr : piece.getLast hne = '\r' := by
      rw [List.getLast?_eq_some_getLast hne] at h
      exact Option.some.inj h
    rw [← trim_append_gap hg piece.dropLast, ← hr, List.dropLast_concat_getLast hne]
  · rfl

theorem lines_ne_nil (text : Text) : lines text ≠ [] :=
  mt List.map_eq_nil_iff.mp (pieces_ne_nil '\n' text)

theorem unlines_concat_nil (hne : rows ≠ []) : unlines (rows ++ [[]]) = unlines rows ++ ['\n'] := by
  induction rows with
  | nil => exact absurd rfl hne
  | cons row rows ih =>
    cases rows with
    | nil => simp [unlines, List.intercalate, List.intersperse]
    | cons row' rows =>
      have h := ih (List.cons_ne_nil row' rows)
      simp only [unlines, List.intercalate, List.cons_append, List.intersperse_cons_cons, List.flatten_cons] at h ⊢
      rw [h]
      simp

/-- Joined lines are found again, but for the carriage returns at their ends. -/
theorem lines_unlines (hne : rows ≠ []) (h : ∀ row ∈ rows, '\n' ∉ row) :
    lines (unlines rows) = rows.map withoutReturn := by
  rw [lines, unlines, pieces_intercalate hne h]

theorem lines_unlines_concat (hne : rows ≠ []) (h : ∀ row ∈ rows, '\n' ∉ row) :
    lines (unlines rows ++ ['\n']) = rows.map withoutReturn ++ [[]] := by
  have hp : ∀ row ∈ rows ++ [[]], '\n' ∉ row := by
    intro row hr
    rcases List.mem_append.mp hr with hr | hr
    · exact h row hr
    · rw [List.mem_singleton.mp hr]
      exact List.not_mem_nil
  rw [← unlines_concat_nil hne, lines_unlines (by simp) hp, List.map_append]
  rfl

/-- The lines of joined rows with a newline behind them, up to the blanks around them. -/
theorem trim_lines_unlines (hne : rows ≠ []) (h : ∀ row ∈ rows, '\n' ∉ row) :
    (lines (unlines rows ++ ['\n'])).map trim = rows.map trim ++ [[]] := by
  have : trim ∘ withoutReturn = trim := funext trim_withoutReturn
  rw [lines_unlines_concat hne h, List.map_append, List.map_map, this]
  rfl

theorem bodies_append (before behind : List Text) : bodies (before ++ behind) = bodies before ++ bodies behind :=
  List.map_append

theorem bodies_eq_map_trim (lines : List Text) :
    bodies lines = (lines.map trim).map fun body => if body = [] then none else some body := by
  rw [bodies, List.map_map]
  refine List.map_congr_left fun line _ => ?_
  by_cases h : isFilled line = true
  · simp [h, isFilled_iff.mp h]
  · have hg : trim line = [] := trim_eq_nil_iff.mpr (isFilled_eq_false_iff.mp (Bool.not_eq_true _ ▸ h))
    simp [h, hg]

/-- The bodies of joined lines are found again. -/
theorem squeeze_bodies_unlines (h : ∀ row ∈ rows, '\n' ∉ row) :
    squeeze (bodies (lines (unlines rows ++ ['\n']))) = squeeze (bodies rows) := by
  by_cases hne : rows = []
  · rw [hne]
    rfl
  · rw [bodies_eq_map_trim, trim_lines_unlines hne h, List.map_append, ← bodies_eq_map_trim,
      squeeze_append_blanks (by simp)]

/-- The bodies among lines are the trimmed lines that hold more than blanks. -/
theorem entries_bodies (lines : List Text) : (bodies lines).filterMap id = (lines.filter isFilled).map trim := by
  induction lines with
  | nil => rfl
  | cons line lines ih =>
    rw [bodies, List.map_cons, List.filter_cons]
    cases isFilled line with
    | false => exact ih
    | true => exact congrArg (trim line :: ·) ih

/-- The first line that is not blank is the first entry among the bodies. -/
theorem find?_map_trim (lines : List Text) :
    (lines.map trim).find? (· ≠ []) = ((bodies lines).filterMap id).head? := by
  rw [entries_bodies]
  induction lines with
  | nil => rfl
  | cons line lines ih =>
    cases hf : isFilled line with
    | true => simp [hf, isFilled_iff.mp hf]
    | false => simpa [hf, trim_eq_nil_iff.mpr (isFilled_eq_false_iff.mp hf)] using ih

theorem map_trim_marks (lines : List Text) : (marks (fun _ => true) lines).map (·.map trim) = bodies lines := by
  induction lines with
  | nil => rfl
  | cons line lines ih =>
    rw [marks, List.filterMap_cons, bodies, List.map_cons]
    cases isFilled line with
    | false => exact congrArg (none :: ·) ih
    | true => exact congrArg (some (trim line) :: ·) ih

/-- Blanks stand between the same lines, trimmed or not. -/
theorem gaps_marks (lines : List Text) : gaps (marks (fun _ => true) lines) = gaps (bodies lines) := by
  rw [← map_trim_marks, gaps_map]

/-- The entries among marks are the lines that hold more than blanks and pass the test. -/
theorem entries_marks (holds : Text → Bool) (lines : List Text) :
    (marks holds lines).filterMap id = lines.filter fun line => isFilled line && holds line := by
  induction lines with
  | nil => rfl
  | cons line lines ih =>
    rw [marks, List.filterMap_cons, List.filter_cons]
    cases isFilled line with
    | false => exact ih
    | true =>
      cases holds line with
      | false => exact ih
      | true => exact congrArg (line :: ·) ih

/-- The bodies among lines are tight. -/
theorem isTight_of_mem_bodies {lines : List Text} (h : ∀ line ∈ lines, '\n' ∉ line) {body : Text}
    (hb : some body ∈ bodies lines) : IsTight body := by
  obtain ⟨line, hl, hb⟩ := List.mem_map.mp hb
  split at hb
  · next hf =>
    cases hb
    exact isTight_trim (h line hl) (isFilled_iff.mp hf)
  · cases hb

theorem newline_not_mem_lines {text line : Text} (h : line ∈ lines text) : '\n' ∉ line := by
  obtain ⟨piece, hp, rfl⟩ := List.mem_map.mp h
  intro hn
  refine not_mem_of_mem_pieces hp ?_
  unfold withoutReturn at hn
  split at hn
  · exact List.dropLast_subset piece hn
  · exact hn

/-- Marks are what is left of the lines where those that fail the test are passed over. -/
theorem marks_eq_filter (holds : Text → Bool) (lines : List Text) :
    marks holds lines = (marks (fun _ => true) lines).filter (·.all holds) := by
  induction lines with
  | nil => rfl
  | cons line lines ih =>
    simp only [marks, List.filterMap_cons] at ih ⊢
    cases hf : isFilled line with
    | false => simp [ih]
    | true => cases hh : holds line <;> simp [hh, ih]

end Lines

/-! ## Rows -/

/-- The lines of the rows of a page. -/
def Page.rows (unit : Text) (page : Page) : List Text :=
  (squeeze page).map fun row => row.elim [] (Row.render unit)

section Rows

variable {P Q : Page} {unit : Text}

theorem render_eq_unlines (unit : Text) (page : Page) : page.render unit = unlines (page.rows unit) ++ ['\n'] := rfl

/-- Blanks may be squeezed before a page is rendered. -/
theorem render_squeeze (unit : Text) (page : Page) : Page.render unit (squeeze page) = page.render unit := by
  rw [Page.render, Page.render, squeeze_squeeze]

theorem isGap_flatten_replicate (h : IsGap unit) (depth : Nat) : IsGap (List.replicate depth unit).flatten := by
  intro c hc
  obtain ⟨u, hu, hc⟩ := List.mem_flatten.mp hc
  rw [List.eq_of_mem_replicate hu] at hc
  exact h c hc

theorem trim_render (h : IsGap unit) {row : Row} (hr : IsTight row.text) : trim (row.render unit) = row.text :=
  hr.trim_gap_append (isGap_flatten_replicate h row.depth)

theorem newline_not_mem_render (h : '\n' ∉ unit) {row : Row} (hr : IsTight row.text) : '\n' ∉ row.render unit := by
  rw [Row.render, List.mem_append]
  rintro (hn | hn)
  · obtain ⟨u, hu, hn⟩ := List.mem_flatten.mp hn
    rw [List.eq_of_mem_replicate hu] at hn
    exact h hn
  · exact hr.newline hn

theorem newline_not_mem_rows (h : '\n' ∉ unit) (hP : ∀ row, some row ∈ P → IsTight row.text) :
    ∀ line ∈ P.rows unit, '\n' ∉ line := by
  intro line hl
  obtain ⟨row, hr, rfl⟩ := List.mem_map.mp hl
  cases row with
  | none => exact List.not_mem_nil
  | some row => exact newline_not_mem_render h (hP row (some_mem_squeeze.mp hr))

/-- A row does not end with a carriage return. -/
theorem withoutReturn_render {row : Row} (hr : IsTight row.text) :
    withoutReturn (row.render unit) = row.render unit := by
  have hlast : (row.render unit).getLast? = some (row.text.getLast hr.ne_nil) := by
    rw [Row.render, List.getLast?_append, List.getLast?_eq_some_getLast hr.ne_nil]
    rfl
  rw [withoutReturn, hlast, if_neg]
  intro h
  have hblank := hr.last _ (List.getLast?_eq_some_getLast hr.ne_nil)
  rw [Option.some.inj h] at hblank
  cases hblank

/-- The lines of a page are its rows, with an empty line behind them, and with two of them where there is no row. -/
theorem lines_render_eq (h : '\n' ∉ unit) (hP : ∀ row, some row ∈ P → IsTight row.text) :
    lines (P.render unit) = P.rows unit ++ if squeeze P = [] then [[], []] else [[]] := by
  rw [render_eq_unlines]
  split
  · next hnil =>
    rw [Page.rows, hnil]
    rfl
  · next hne =>
    have hrows : P.rows unit ≠ [] := mt List.map_eq_nil_iff.mp hne
    rw [lines_unlines_concat hrows (newline_not_mem_rows h hP), List.append_cancel_right_eq, Page.rows, List.map_map]
    refine List.map_congr_left fun row hr => ?_
    cases row with
    | none => rfl
    | some row => exact withoutReturn_render (hP row (some_mem_squeeze.mp hr))

/-- The lines of a page are its rows, with empty lines behind them. -/
theorem lines_render (h : '\n' ∉ unit) (hP : ∀ row, some row ∈ P → IsTight row.text) :
    ∃ rest, lines (P.render unit) = P.rows unit ++ rest ∧ ∀ line ∈ rest, line = [] :=
  ⟨_, lines_render_eq h hP, by split <;> simp⟩

/-- Without their indentation, the rows of a page are its texts. -/
theorem map_trimStart_rows (h : IsGap unit) (hP : ∀ row, some row ∈ P → IsTight row.text) :
    (P.rows unit).map trimStart = ((squeeze P).map (·.map Row.text)).map (·.getD []) := by
  rw [Page.rows, List.map_map, List.map_map]
  refine List.map_congr_left fun row hr => ?_
  cases row with
  | none => rfl
  | some row =>
    have ht := hP row (some_mem_squeeze.mp hr)
    exact (trimStart_gap_append (isGap_flatten_replicate h row.depth) row.text).trans ht.trimStart_eq

/-- Pages with the same texts render to the same lines up to their indentation. -/
theorem map_trimStart_lines_render (hgap : IsGap unit) (h : '\n' ∉ unit) (hP : ∀ row, some row ∈ P → IsTight row.text)
    (hQ : ∀ row, some row ∈ Q → IsTight row.text)
    (ht : (squeeze P).map (·.map Row.text) = (squeeze Q).map (·.map Row.text)) :
    (lines (P.render unit)).map trimStart = (lines (Q.render unit)).map trimStart := by
  have hnil : squeeze P = [] ↔ squeeze Q = [] := by
    rw [← List.map_eq_nil_iff (f := (·.map Row.text)), ht, List.map_eq_nil_iff]
  rw [lines_render_eq h hP, lines_render_eq h hQ, List.map_append, List.map_append, map_trimStart_rows hgap hP,
    map_trimStart_rows hgap hQ, ht]
  simp only [hnil]

/-- The rows of a page, trimmed, are its texts. -/
theorem bodies_rows (h : IsGap unit) (hP : ∀ row, some row ∈ P → IsTight row.text) :
    bodies (P.rows unit) = (squeeze P).map (·.map Row.text) := by
  rw [bodies_eq_map_trim, Page.rows, List.map_map, List.map_map]
  refine List.map_congr_left fun row hr => ?_
  cases row with
  | none => rfl
  | some row =>
    have ht := hP row (some_mem_squeeze.mp hr)
    simp [trim_render h ht, ht.ne_nil]

/-- The first line of a page holds more than blanks. -/
theorem isFilled_head_rows (h : IsGap unit) (hP : ∀ row, some row ∈ P → IsTight row.text) {line : Text}
    (hl : (P.rows unit).head? = some line) : isFilled line = true := by
  rcases squeeze_eq_nil_or_cons P with hs | ⟨row, rest, hs⟩
  · rw [Page.rows, hs] at hl
    cases hl
  · have ht := hP row (some_mem_squeeze.mp (by rw [hs]; exact List.mem_cons_self))
    rw [Page.rows, hs] at hl
    cases hl
    show isFilled (row.render unit) = true
    rw [isFilled_iff, trim_render h ht]
    exact ht.ne_nil

/-- The last line of a page holds more than blanks. -/
theorem isFilled_last_rows (h : IsGap unit) (hP : ∀ row, some row ∈ P → IsTight row.text) {line : Text}
    (hl : (P.rows unit).getLast? = some line) : isFilled line = true := by
  rw [Page.rows, List.getLast?_map] at hl
  obtain ⟨row, hrow, hl⟩ := Option.map_eq_some_iff.mp hl
  cases row with
  | none => cases last_squeeze P hrow
  | some row =>
    have ht := hP row (some_mem_squeeze.mp (List.mem_of_getLast? hrow))
    rw [← hl]
    show isFilled (row.render unit) = true
    rw [isFilled_iff, trim_render h ht]
    exact ht.ne_nil

/-- The bodies of a rendered page are the texts of its rows. -/
theorem squeeze_bodies_render (h : IsGap unit) (hn : '\n' ∉ unit) (hP : ∀ row, some row ∈ P → IsTight row.text) :
    squeeze (bodies (lines (P.render unit))) = (squeeze P).map (·.map Row.text) := by
  rw [render_eq_unlines, squeeze_bodies_unlines (newline_not_mem_rows hn hP), bodies_rows h hP, squeeze_map,
    squeeze_squeeze]

theorem isGap_indentUnit (w : Nat) : IsGap (indentUnit w) := by
  intro c hc
  rw [List.eq_of_mem_replicate hc]
  decide

theorem newline_not_mem_indentUnit (w : Nat) : '\n' ∉ indentUnit w :=
  fun h => by cases List.eq_of_mem_replicate h

theorem length_render (w : Nat) (row : Row) :
    (row.render (indentUnit w)).length = row.depth * w + row.text.length := by
  simp [Row.render, indentUnit]

/-- Rows with the same text that render alike have the same depth, unless no level of indentation shows. -/
theorem row_eq_of_render_eq {w : Nat} (hw : w ≠ 0) {r s : Row} (ht : r.text = s.text)
    (h : r.render (indentUnit w) = s.render (indentUnit w)) : r = s := by
  have hl := congrArg List.length h
  rw [length_render, length_render, ht] at hl
  have hd : r.depth = s.depth := Nat.eq_of_mul_eq_mul_right (Nat.pos_of_ne_zero hw) (by omega)
  cases r
  cases s
  simp only at ht hd
  rw [ht, hd]

theorem page_eq_of_rows_eq {w : Nat} (hw : w ≠ 0) {P Q : Page} (ht : P.map (·.map Row.text) = Q.map (·.map Row.text))
    (h : P.map (·.elim [] (Row.render (indentUnit w))) = Q.map (·.elim [] (Row.render (indentUnit w)))) : P = Q := by
  induction P generalizing Q with
  | nil => exact (List.map_eq_nil_iff.mp ht.symm).symm
  | cons r P ih =>
    cases Q with
    | nil => cases ht
    | cons s Q =>
      simp only [List.map_cons, List.cons.injEq] at ht h
      rw [ih ht.2 h.2]
      cases r with
      | none =>
        cases s with
        | none => rfl
        | some s => cases ht.1
      | some r =>
        cases s with
        | none => cases ht.1
        | some s => rw [row_eq_of_render_eq hw (Option.some.inj ht.1) h.1]

/-- Pages with the same texts render alike where their rows have the same depths, or no level of indentation shows. -/
theorem render_eq_render_iff {w : Nat} (hP : ∀ row, some row ∈ P → IsTight row.text)
    (hQ : ∀ row, some row ∈ Q → IsTight row.text)
    (ht : (squeeze P).map (·.map Row.text) = (squeeze Q).map (·.map Row.text)) :
    P.render (indentUnit w) = Q.render (indentUnit w) ↔ w = 0 ∨ squeeze P = squeeze Q := by
  have hn := newline_not_mem_indentUnit w
  constructor
  · intro h
    by_cases hw : w = 0
    · exact Or.inl hw
    right
    rw [render_eq_unlines, render_eq_unlines] at h
    have hu := List.append_cancel_right h
    by_cases he : squeeze P = []
    · rw [he] at ht ⊢
      exact (List.map_eq_nil_iff.mp ht.symm).symm
    have he' : squeeze Q ≠ [] := by
      intro hq
      rw [hq] at ht
      exact he (List.map_eq_nil_iff.mp ht)
    refine page_eq_of_rows_eq hw ht ?_
    have hp := pieces_intercalate (mt List.map_eq_nil_iff.mp he) (newline_not_mem_rows hn hP)
    have hq := pieces_intercalate (mt List.map_eq_nil_iff.mp he') (newline_not_mem_rows hn hQ)
    exact hp.symm.trans ((congrArg (pieces '\n') hu).trans hq)
  · rintro (rfl | h)
    · have hr : ∀ R : Page, R.rows (indentUnit 0) = ((squeeze R).map (·.map Row.text)).map (·.getD []) := by
        intro R
        rw [Page.rows, List.map_map]
        refine List.map_congr_left fun row _ => ?_
        cases row <;> simp [Row.render, indentUnit]
      rw [render_eq_unlines, render_eq_unlines, hr, hr, ht]
    · rw [← render_squeeze, h, render_squeeze]

end Rows

end DiagramText
