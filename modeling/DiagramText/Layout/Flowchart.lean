import DiagramText.Edge
import DiagramText.Line
import DiagramText.Page

/-!
# The layout of a flowchart

Each line of a flowchart becomes a row at the depth that the lines before it leave: the header starts the diagram at
depth one, `subgraph` opens a level behind itself, and `end` closes one before itself, but never below zero. Nodes and
edges get single spaces around their arrow; all other lines only lose the blanks around them.
-/

namespace DiagramText

/-- The text of a line of a flowchart in its canonical form. -/
def flowchartText (line : Text) : Text :=
  match LineKind.ofLine .flowchart line with
  | .declaration | .statement => normalizeEdge (Text.trim line)
  | _ => Text.trim line

/-- The rows of a flowchart whose first line is at a given depth. -/
def flowchartPage (depth : Nat) : List Text → Page
  | [] => []
  | line :: rest =>
    match LineKind.ofLine .flowchart line with
    | .blank => none :: flowchartPage depth rest
    | .header => some ⟨0, flowchartText line⟩ :: flowchartPage 1 rest
    | .blockStart _ => some ⟨depth, flowchartText line⟩ :: flowchartPage (depth + 1) rest
    | .blockEnd => some ⟨depth - 1, flowchartText line⟩ :: flowchartPage (depth - 1) rest
    | _ => some ⟨depth, flowchartText line⟩ :: flowchartPage depth rest

/-- A flowchart in its canonical form, where one level of indentation is `unit`. -/
def formatFlowchart (unit text : Text) : Text :=
  (flowchartPage 0 (Text.lines text)).render unit

end DiagramText
