import DiagramText.Text.Basic

/-!
# Pages

A page is a list of rows, each a depth of indentation and a text, with blank rows between them.

- `squeeze` keeps one blank of each run between two entries and drops all others: it keeps every entry
  (`entries_squeeze`) and changes nothing the second time (`squeeze_squeeze`);
- `Page.render` writes the rows of a squeezed page as lines.
-/

namespace DiagramText

variable {α : Type}

/-! ## Blanks between entries -/

/-- The entries of a list behind an earlier entry, with one blank (`none`) before each that has a blank before it;
`pending` says whether there is one already. -/
def separated (pending : Bool) : List (Option α) → List (Option α)
  | [] => []
  | none :: rest => separated true rest
  | some a :: rest => (if pending then [none] else []) ++ some a :: separated false rest

/-- The entries of a list with a single blank (`none`) wherever blanks stand between two of them. -/
def squeeze : List (Option α) → List (Option α)
  | [] => []
  | none :: rest => squeeze rest
  | some a :: rest => some a :: separated false rest

section Squeeze

theorem separated_separated (xs : List (Option α)) (p q : Bool) :
    separated p (separated q xs) = separated (p || q) xs := by
  induction xs generalizing p q with
  | nil => rfl
  | cons x xs ih =>
    cases x with
    | none => simp [separated, ih]
    | some a => cases q <;> simp [separated, ih]

/-- Squeezing twice is squeezing once. -/
theorem squeeze_squeeze (xs : List (Option α)) : squeeze (squeeze xs) = squeeze xs := by
  induction xs with
  | nil => rfl
  | cons x xs ih =>
    cases x with
    | none => exact ih
    | some a => simp [squeeze, separated_separated]

theorem entries_separated (xs : List (Option α)) (p : Bool) : (separated p xs).filterMap id = xs.filterMap id := by
  induction xs generalizing p with
  | nil => rfl
  | cons x xs ih =>
    cases x with
    | none => exact ih true
    | some a => cases p <;> exact congrArg (a :: ·) (ih false)

/-- Squeezing keeps every entry and their order. -/
theorem entries_squeeze (xs : List (Option α)) : (squeeze xs).filterMap id = xs.filterMap id := by
  induction xs with
  | nil => rfl
  | cons x xs ih =>
    cases x with
    | none => exact ih
    | some a => exact congrArg (a :: ·) (entries_separated xs false)

end Squeeze

/-! ## Rows -/

/-- A line of a page: a text at a depth of indentation. -/
structure Row where
  depth : Nat
  text : Text
  deriving DecidableEq

/-- The line that a row makes when one level of indentation is `unit`. -/
def Row.render (unit : Text) (row : Row) : Text :=
  (List.replicate row.depth unit).flatten ++ row.text

/-- The rows of a page; `none` is a blank row. -/
abbrev Page := List (Option Row)

/-- The text of a page: its rows as lines, with single blank lines between them and a newline at the end. -/
def Page.render (unit : Text) (page : Page) : Text :=
  Text.unlines ((squeeze page).map fun row => row.elim [] (Row.render unit)) ++ ['\n']

end DiagramText
