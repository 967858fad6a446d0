import DiagramText.Text.Basic

/-!
# Documents

A document is what an editor shows: numbered lines, the first of them line 1. Places in it are given by line and
column, where column 1 stands before the first character of a line.

- `Document.ofText` and `Document.value` pass between texts and documents;
- `Range.endOfLine`, `Range.wholeLine` and `Range.full` are the ranges that edits replace;
- `Document.replace?` puts a text in the place of a range, if both ends of the range lie in the document.
-/

namespace DiagramText

/-- The lines of an editor's document. -/
structure Document where
  lines : List Text
  deriving DecidableEq

namespace Document

/-- The document that shows a text. -/
def ofText (text : Text) : Document :=
  ⟨Text.lines text⟩

/-- The lines of a document, joined by newlines. -/
def value (d : Document) : Text :=
  Text.unlines d.lines

/-- The number of lines. -/
def lineCount (d : Document) : Nat :=
  d.lines.length

/-- The content of a line, empty for a line that does not exist. -/
def line (d : Document) : Nat → Text
  | 0 => []
  | n + 1 => d.lines.getD n []

/-- The column behind the last character of a line. -/
def endColumn (d : Document) (n : Nat) : Nat :=
  (d.line n).length + 1

/-- The lines with their numbers. -/
def numbered (d : Document) : List (Nat × Text) :=
  (List.range' 1 d.lineCount).zip d.lines

end Document

/-! ## Places -/

/-- A place between characters, given by line and column. -/
structure Position where
  line : Nat
  column : Nat
  deriving DecidableEq

/-- The characters between two places. -/
structure Range where
  first : Position
  last : Position
  deriving DecidableEq

namespace Range

/-- The empty range at the end of a line. -/
def endOfLine (d : Document) (n : Nat) : Range :=
  ⟨⟨n, d.endColumn n⟩, ⟨n, d.endColumn n⟩⟩

/-- The whole content of a line. -/
def wholeLine (d : Document) (n : Nat) : Range :=
  ⟨⟨n, 1⟩, ⟨n, d.endColumn n⟩⟩

/-- The whole document. -/
def full (d : Document) : Range :=
  let n := max d.lineCount 1
  ⟨⟨1, 1⟩, ⟨n, d.endColumn n⟩⟩

/-- Whether a range holds no characters. -/
def isEmpty (r : Range) : Bool :=
  r.first = r.last

end Range

/-! ## Replacement -/

namespace Document

/-- The number of characters before a place in the value of a document, if the place lies in the document. -/
def offset? (d : Document) (p : Position) : Option Nat :=
  if 1 ≤ p.line ∧ p.line ≤ d.lineCount ∧ 1 ≤ p.column ∧ p.column ≤ d.endColumn p.line then
    some (((d.lines.take (p.line - 1)).flatMap (· ++ ['\n'])).length + (p.column - 1))
  else none

/-- The value of a document with a text in the place of a range, if both ends of the range lie in the document. -/
def replace? (d : Document) (r : Range) (text : Text) : Option Text :=
  match d.offset? r.first, d.offset? r.last with
  | some i, some j => some (d.value.take i ++ text ++ d.value.drop j)
  | _, _ => none

end Document

end DiagramText
