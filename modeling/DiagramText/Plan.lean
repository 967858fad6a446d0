import DiagramText.Action
import DiagramText.Document
import DiagramText.Ends
import DiagramText.Layout
import DiagramText.Snippet

/-!
# Edit plans

An action does not change a document: it returns a plan, which an editor carries out as one replacement. A plan with an
empty range is an insertion.

- `EditPlan.applyTo?` is the document after a plan;
- `swapLine?`, `duplicateLine` and `prettifyDocument?` plan the edits of whole lines and documents.
-/

namespace DiagramText

/-- What an action needs to know of the editor beside the document. -/
structure EditContext where
  dialect : Dialect
  /-- One level of indentation, for where the document shows none. -/
  indentUnit : Text
  deriving DecidableEq

/-- A replacement in a document. -/
structure EditPlan where
  /-- The action that made the plan. -/
  source : Action
  range : Range
  snippet : Snippet
  deriving DecidableEq

namespace EditPlan

/-- The text that takes the place of the range. -/
def text (p : EditPlan) : Text :=
  p.snippet.toText

/-- The value of a document after a plan, if the range lies in the document. -/
def applyTo? (p : EditPlan) (d : Document) : Option Text :=
  d.replace? p.range p.text

end EditPlan

/-- The plan that swaps the ends of the arrow in a line, if that changes the line. -/
def swapLine? (d : Document) (n : Nat) : Option EditPlan :=
  let swapped := swapEnds (d.line n)
  if swapped = d.line n then none else some ⟨.swapArrow, .wholeLine d n, .plain swapped⟩

/-- The plan that puts a copy of a line below it. A copy below the last line ends with a newline. -/
def duplicateLine (d : Document) (n : Nat) : EditPlan :=
  let ending := if n = d.lineCount then ['\n'] else []
  ⟨.duplicateLine, .endOfLine d n, .plain ('\n' :: d.line n ++ ending)⟩

/-- The plan that gives a document its canonical form, if that changes the document. -/
def prettifyDocument? (d : Document) (unit : Text) : Option EditPlan :=
  let pretty := prettify unit d.value
  if pretty = d.value then none else some ⟨.prettify, .full d, .plain pretty⟩

end DiagramText
