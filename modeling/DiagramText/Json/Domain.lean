import DiagramText.Json.Basic
import DiagramText.Session

/-!
# Documents and plans in JSON

How hosts of the editor receive the outcomes of actions, and how dialects, actions, places and ranges are read from
what they send. `Dialect.ofJson?_toJson`, `Action.ofJson?_toJson` say that both are read back.
-/

namespace DiagramText

/-! ## Writing -/

/-- A fixed text as a value. -/
def Json.label (text : String) : Json :=
  .string text.toList

/-- An object from keys and values. -/
def Json.record (fields : List (String × Json)) : Json :=
  .object (fields.map fun (key, value) => (key.toList, value))

/-- A dialect is its identifier. -/
def Dialect.toJson (d : Dialect) : Json :=
  .label d.id

/-- An action is its identifier. -/
def Action.toJson (a : Action) : Json :=
  .label a.id

/-- What a menu shows for an action. -/
def Action.menuEntry (a : Action) : Json :=
  .record [("id", .label a.id), ("label", .label a.label), ("description", .label a.description)]

/-- A place has a line and a column. -/
def Position.toJson (p : Position) : Json :=
  .record [("line", .natural p.line), ("column", .natural p.column)]

/-- A range has the lines and columns of its ends. -/
def Range.toJson (r : Range) : Json :=
  .record [("startLine", .natural r.first.line), ("startColumn", .natural r.first.column),
    ("endLine", .natural r.last.line), ("endColumn", .natural r.last.column)]

/-- A stop has its index, its default, and its offsets in the text. -/
def TabStop.toJson (t : TabStop) : Json :=
  .record [("index", .natural t.index), ("default", .string t.default), ("start", .natural t.first),
    ("end", .natural t.last)]

/-- A plan has its action, its range, and its text in both forms with the stops. -/
def EditPlan.toJson (p : EditPlan) : Json :=
  .record [("source", p.source.toJson), ("range", p.range.toJson), ("text", .string p.text),
    ("template", .string p.snippet.toTemplate), ("stops", .list (p.snippet.tabStops.map TabStop.toJson))]

/-- An outcome has its name and, except for `nothing`, a detail. -/
def Outcome.toJson : Outcome → Json
  | .edit plan => .record [("outcome", .label "edit"), ("detail", plan.toJson)]
  | .switchDialect dialect => .record [("outcome", .label "switch_diagram"), ("detail", dialect.toJson)]
  | .nothing => .record [("outcome", .label "nothing")]

/-! ## Reading -/

/-- The dialect with the identifier that a value stands for, letter by letter. -/
def Dialect.ofJson? (value : Json) : Option Dialect :=
  value.tag?.bind fun name => all.find? (·.id.toList = name)

/-- The action with the identifier that a value stands for, letter by letter. -/
def Action.ofJson? (value : Json) : Option Action :=
  value.tag?.bind fun name => all.find? (·.id.toList = name)

/-- The place that a value describes. -/
def Position.ofJson? (value : Json) : Option Position :=
  match value.fields? ["line", "column"] with
  | some [line, column] => do return ⟨← line.natural?, ← column.natural?⟩
  | _ => none

/-- The range that a value describes. -/
def Range.ofJson? (value : Json) : Option Range :=
  match value.fields? ["startLine", "startColumn", "endLine", "endColumn"] with
  | some [startLine, startColumn, endLine, endColumn] => do
    return ⟨⟨← startLine.natural?, ← startColumn.natural?⟩, ⟨← endLine.natural?, ← endColumn.natural?⟩⟩
  | _ => none

theorem Dialect.ofJson?_toJson (d : Dialect) : ofJson? d.toJson = some d := by
  cases d <;> rfl

theorem Action.ofJson?_toJson (a : Action) : ofJson? a.toJson = some a := by
  cases a <;> rfl

end DiagramText
