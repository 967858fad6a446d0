import DiagramText.Plan

/-!
# Settings

What a user can set by environment variables: the width of the indentation and the dialect of texts that do not name
one. `Settings.ofVariables` reads both and says which of them it cannot use; the width counts first.
-/

namespace DiagramText

/-- The widest level of indentation. -/
def maxIndentWidth : Nat := 8

/-- The variable for the width of the indentation. -/
def indentWidthVariable : String := "MERMAID_INDENT_WIDTH"

/-- The variable for the dialect. -/
def dialectVariable : String := "MERMAID_DIAGRAM_TYPE"

/-- Why settings cannot be used. -/
inductive SettingsError where
  | indentWidth (raw : Text)
  | dialect (raw : Text)
  deriving DecidableEq

/-- What a user is told about settings that cannot be used. -/
def SettingsError.message : SettingsError → Text
  | indentWidth raw =>
    "invalid ".toList ++ indentWidthVariable.toList ++ " '".toList ++ raw ++ "' (expected 1..=8)".toList
  | dialect raw =>
    "unknown ".toList ++ dialectVariable.toList ++ " '".toList ++ raw ++
      "' (expected 'flowchart' or 'sequence')".toList

/-- The settings of an editor. -/
structure Settings where
  /-- The number of spaces in a level of indentation. -/
  indentWidth : Nat
  /-- The dialect of a text without a header. -/
  dialect : Dialect
  deriving DecidableEq

namespace Settings

/-- The settings of a user who sets nothing. -/
def initial : Settings :=
  ⟨defaultIndentWidth, .flowchart⟩

/-- The width that a variable sets. -/
def indentWidthOf : Option Text → Except SettingsError Nat
  | none => .ok defaultIndentWidth
  | some raw =>
    match Text.natural? (Text.trim raw) with
    | .ok width => if 1 ≤ width ∧ width ≤ maxIndentWidth then .ok width else .error (.indentWidth raw)
    | .error _ => .error (.indentWidth raw)

/-- The dialect that a variable sets. -/
def dialectOf : Option Text → Except SettingsError Dialect
  | none => .ok .flowchart
  | some raw =>
    match Dialect.ofId? raw with
    | some dialect => .ok dialect
    | none => .error (.dialect raw)

/-- The settings that variables make, where `lookup` gives the value of a variable that is set. -/
def ofVariables (lookup : String → Option Text) : Except SettingsError Settings := do
  let width ← indentWidthOf (lookup indentWidthVariable)
  let dialect ← dialectOf (lookup dialectVariable)
  return ⟨width, dialect⟩

/-- One level of indentation. -/
def unit (s : Settings) : Text :=
  indentUnit s.indentWidth

/-- The context in which an editor opens a text: its own dialect, or the one of the settings. -/
def contextFor (s : Settings) (text : Text) : EditContext :=
  ⟨(Dialect.detect? text).getD s.dialect, s.unit⟩

end Settings

end DiagramText
