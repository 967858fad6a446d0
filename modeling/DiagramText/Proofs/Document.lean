import Mathlib.Data.List.GetD
import DiagramText.Document
import DiagramText.Proofs.Page

/-!
# Edits of documents

Around a line, the value of a document is what lies above the line, the line, and what lies below it (`value_eq`). So an
edit at the end of a line, of a whole line, or of the whole document is told by what it puts between
(`replace?_endOfLine`, `replace?_wholeLine`, `replace?_full`), and an edit that puts whole lines below a line inserts
them among the lines (`unlines_insert`).
-/

namespace DiagramText

open Text

namespace Document

/-- The text above a line. -/
def above (d : Document) (n : Nat) : Text :=
  (d.lines.take (n - 1)).flatMap (· ++ ['\n'])

/-- The text below a line. -/
def below (d : Document) (n : Nat) : Text :=
  (d.lines.drop n).flatMap ('\n' :: ·)

end Document

/-- A range lies in a document: its lines exist, its columns are those of their lines, and it does not end before it
starts. -/
structure Range.LiesIn (r : Range) (d : Document) : Prop where
  first_line : 1 ≤ r.first.line ∧ r.first.line ≤ d.lineCount
  last_line : 1 ≤ r.last.line ∧ r.last.line ≤ d.lineCount
  first_column : 1 ≤ r.first.column ∧ r.first.column ≤ d.endColumn r.first.line
  last_column : 1 ≤ r.last.column ∧ r.last.column ≤ d.endColumn r.last.line
  ordered : r.first.line < r.last.line ∨ r.first.line = r.last.line ∧ r.first.column ≤ r.last.column

variable {d : Document} {n : Nat} {text : Text}

/-! ## Lines -/

section Lines

/-- A line without newlines, where no line of the document holds one. -/
theorem newline_not_mem_line (h : ∀ line ∈ d.lines, '\n' ∉ line) (n : Nat) : '\n' ∉ d.line n := by
  cases n with
  | zero => exact List.not_mem_nil
  | succ n =>
    rw [Document.line, List.getD_eq_getElem?_getD]
    cases hn : d.lines[n]? with
    | none => exact List.not_mem_nil
    | some line => exact h line (List.mem_of_getElem? hn)

/-- The lines of a document in the order of their numbers. -/
theorem numbered_eq (d : Document) : d.numbered = (List.range' 1 d.lineCount).map fun n => (n, d.line n) := by
  refine List.ext_getElem (by simp [Document.numbered, Document.lineCount]) fun i hi _ => ?_
  have hlen : i < d.lines.length := by simpa [Document.numbered, Document.lineCount] using hi
  simp only [Document.numbered, List.getElem_zip, List.getElem_map, List.getElem_range', Nat.one_mul, Prod.mk.injEq,
    true_and]
  rw [Nat.add_comm, Document.line, List.getD_eq_getElem _ _ hlen]

theorem mem_numbered {line : Text} : (n, line) ∈ d.numbered ↔ 1 ≤ n ∧ n ≤ d.lineCount ∧ line = d.line n := by
  simp only [numbered_eq, List.mem_map, List.mem_range'_1, Prod.mk.injEq]
  constructor
  · rintro ⟨k, hk, rfl, rfl⟩
    exact ⟨hk.1, by omega, rfl⟩
  · rintro ⟨hfirst, hlast, rfl⟩
    exact ⟨n, ⟨hfirst, by omega⟩, rfl, rfl⟩

end Lines

/-! ## The value around a line -/

section Value

theorem unlines_cons (line : Text) (rest : List Text) :
    unlines (line :: rest) = line ++ rest.flatMap ('\n' :: ·) := by
  induction rest generalizing line with
  | nil => simp [unlines, List.intercalate]
  | cons next rest ih =>
    have h := ih next
    simp only [unlines, List.intercalate, List.intersperse_cons_cons, List.flatten_cons, List.flatMap_cons] at h ⊢
    rw [h]
    simp

theorem unlines_append_cons (before : List Text) (line : Text) (behind : List Text) :
    unlines (before ++ line :: behind) =
      before.flatMap (· ++ ['\n']) ++ (line ++ behind.flatMap ('\n' :: ·)) := by
  induction before with
  | nil => exact unlines_cons line behind
  | cons first before ih =>
    rw [List.cons_append, unlines_cons, List.flatMap_cons, List.append_assoc, List.append_assoc, ← ih]
    cases before with
    | nil => simp [unlines_cons]
    | cons second before => simp [unlines_cons]

theorem lines_eq (hfirst : 1 ≤ n) (hlast : n ≤ d.lineCount) :
    d.lines = d.lines.take (n - 1) ++ d.line n :: d.lines.drop n := by
  obtain ⟨k, rfl⟩ := Nat.exists_eq_add_of_le' hfirst
  have hk : k < d.lines.length := hlast
  rw [Document.line, List.getD_eq_getElem _ _ hk, Nat.add_sub_cancel, ← List.drop_eq_getElem_cons hk,
    List.take_append_drop]

theorem take_eq (hfirst : 1 ≤ n) (hlast : n ≤ d.lineCount) :
    d.lines.take n = d.lines.take (n - 1) ++ [d.line n] := by
  obtain ⟨k, rfl⟩ := Nat.exists_eq_add_of_le' hfirst
  have hk : k < d.lines.length := hlast
  rw [Document.line, List.getD_eq_getElem _ _ hk, Nat.add_sub_cancel, List.take_succ_eq_append_getElem hk]

/-- The value of a document around a line. -/
theorem value_eq (hfirst : 1 ≤ n) (hlast : n ≤ d.lineCount) :
    d.value = d.above n ++ (d.line n ++ d.below n) := by
  rw [Document.value, lines_eq hfirst hlast, unlines_append_cons]
  rfl

theorem below_lineCount (d : Document) : d.below d.lineCount = [] := by
  rw [Document.below, Document.lineCount, List.drop_length, List.flatMap_nil]

/-- Lines inserted below a line, with an empty line behind them where it is the last. -/
theorem unlines_insert (hfirst : 1 ≤ n) (hlast : n ≤ d.lineCount) (inserted ending : List Text) :
    unlines (d.lines.take n ++ inserted ++ d.lines.drop n ++ ending) =
      d.above n ++ (d.line n ++ (inserted.flatMap ('\n' :: ·) ++ (d.below n ++ ending.flatMap ('\n' :: ·)))) := by
  rw [take_eq hfirst hlast]
  simp only [List.append_assoc, List.cons_append, unlines_append_cons, List.flatMap_append]
  rfl

/-- The value of a document has its lines, but for the carriage returns at their ends. -/
theorem bodies_lines_value (hd : ∀ l ∈ d.lines, '\n' ∉ l) (hne : d.lines ≠ []) :
    bodies (lines d.value) = bodies d.lines := by
  have htrim : (d.lines.map withoutReturn).map trim = d.lines.map trim := by
    rw [List.map_map]
    exact congrArg (d.lines.map ·) (funext trim_withoutReturn)
  rw [bodies_eq_map_trim, bodies_eq_map_trim, Document.value, lines_unlines hne hd, htrim]

end Value

/-! ## Replacements -/

section Replacements

theorem offset?_endOfLine (hfirst : 1 ≤ n) (hlast : n ≤ d.lineCount) :
    d.offset? ⟨n, d.endColumn n⟩ = some (d.above n ++ d.line n).length := by
  rw [Document.offset?, if_pos ⟨hfirst, hlast, Nat.le_add_left 1 _, Nat.le_refl _⟩, List.length_append]
  rfl

theorem offset?_startOfLine (hfirst : 1 ≤ n) (hlast : n ≤ d.lineCount) :
    d.offset? ⟨n, 1⟩ = some (d.above n).length := by
  rw [Document.offset?, if_pos ⟨hfirst, hlast, Nat.le_refl 1, Nat.le_add_left 1 _⟩]
  rfl

/-- An edit between two places is told by the parts of the value before and behind them. -/
theorem replace?_eq {r : Range} {before between behind : Text} (hvalue : d.value = before ++ (between ++ behind))
    (hfirst : d.offset? r.first = some before.length) (hlast : d.offset? r.last = some (before ++ between).length) :
    d.replace? r text = some (before ++ (text ++ behind)) := by
  have htake : d.value.take before.length = before := by rw [hvalue, List.take_left]
  have hdrop : d.value.drop (before ++ between).length = behind := by
    rw [hvalue, ← List.append_assoc, List.drop_left]
  simp only [Document.replace?, hfirst, hlast, htake, hdrop, List.append_assoc]

theorem replace?_endOfLine (hfirst : 1 ≤ n) (hlast : n ≤ d.lineCount) :
    d.replace? (.endOfLine d n) text = some (d.above n ++ (d.line n ++ (text ++ d.below n))) := by
  have hvalue : d.value = (d.above n ++ d.line n) ++ ([] ++ d.below n) := by
    rw [value_eq hfirst hlast, List.nil_append, List.append_assoc]
  have hoffset := offset?_endOfLine hfirst hlast
  rw [replace?_eq hvalue hoffset (by rw [List.append_nil]; exact hoffset), List.append_assoc]

theorem replace?_wholeLine (hfirst : 1 ≤ n) (hlast : n ≤ d.lineCount) :
    d.replace? (.wholeLine d n) text = some (d.above n ++ (text ++ d.below n)) :=
  replace?_eq (value_eq hfirst hlast) (offset?_startOfLine hfirst hlast) (offset?_endOfLine hfirst hlast)

theorem full_eq (h : 1 ≤ d.lineCount) : Range.full d = ⟨⟨1, 1⟩, ⟨d.lineCount, d.endColumn d.lineCount⟩⟩ := by
  rw [Range.full, Nat.max_eq_left h]

theorem replace?_full (h : 1 ≤ d.lineCount) : d.replace? (.full d) text = some text := by
  have hvalue : d.value = d.above 1 ++ (d.value ++ []) := (List.append_nil _).symm
  have hlines := value_eq h (Nat.le_refl d.lineCount)
  rw [below_lineCount, List.append_nil] at hlines
  have hlast : d.offset? ⟨d.lineCount, d.endColumn d.lineCount⟩ = some (d.above 1 ++ d.value).length := by
    rw [offset?_endOfLine h (Nat.le_refl _), ← hlines]
    rfl
  rw [full_eq h, replace?_eq hvalue (offset?_startOfLine (Nat.le_refl 1) h) hlast, List.append_nil]
  rfl

theorem endOfLine_liesIn (hfirst : 1 ≤ n) (hlast : n ≤ d.lineCount) : (Range.endOfLine d n).LiesIn d :=
  ⟨⟨hfirst, hlast⟩, ⟨hfirst, hlast⟩, ⟨Nat.le_add_left 1 _, Nat.le_refl _⟩, ⟨Nat.le_add_left 1 _, Nat.le_refl _⟩,
    Or.inr ⟨rfl, Nat.le_refl _⟩⟩

theorem wholeLine_liesIn (hfirst : 1 ≤ n) (hlast : n ≤ d.lineCount) : (Range.wholeLine d n).LiesIn d :=
  ⟨⟨hfirst, hlast⟩, ⟨hfirst, hlast⟩, ⟨Nat.le_refl 1, Nat.le_add_left 1 _⟩, ⟨Nat.le_add_left 1 _, Nat.le_refl _⟩,
    Or.inr ⟨rfl, Nat.le_add_left 1 _⟩⟩

theorem full_liesIn (h : 1 ≤ d.lineCount) : (Range.full d).LiesIn d := by
  rw [full_eq h]
  refine ⟨⟨Nat.le_refl 1, h⟩, ⟨h, Nat.le_refl _⟩, ⟨Nat.le_refl 1, Nat.le_add_left 1 _⟩,
    ⟨Nat.le_add_left 1 _, Nat.le_refl _⟩, ?_⟩
  rcases Nat.lt_or_eq_of_le h with hlt | he
  · exact Or.inl hlt
  · exact Or.inr ⟨he, Nat.le_add_left 1 _⟩

end Replacements

end DiagramText
