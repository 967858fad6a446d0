import DiagramText.Layout.Flowchart
import DiagramText.Layout.Sequence

/-!
# Layout

`prettify` gives a text the canonical form of its dialect, and leaves a text without a dialect as it is.
-/

namespace DiagramText

/-- The spaces of one level of indentation, unless a user asks for another number. -/
def defaultIndentWidth : Nat := 2

/-- One level of indentation of a given number of spaces. -/
def indentUnit (width : Nat) : Text :=
  List.replicate width ' '

/-- A text in the canonical form of its dialect, where one level of indentation is `unit`. -/
def prettify (unit text : Text) : Text :=
  match Dialect.detect? text with
  | some .flowchart => formatFlowchart unit text
  | some .sequence => formatSequence unit text
  | none => text

end DiagramText
