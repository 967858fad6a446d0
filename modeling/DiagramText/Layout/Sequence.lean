import DiagramText.Declaration
import DiagramText.Line
import DiagramText.Note
import DiagramText.Page

/-!
# The layout of a sequence diagram

A sequence diagram in its canonical form has its header, all declarations of participants in their order, and then its
body, which consists of all other lines. A blank line parts the declarations from the body, and inside each region two
lines are parted by a blank line where one stands between them in the source.

The body starts at depth one. A block opens a level behind its first line; `else`, and `and` inside a block, stand one
level above; `end` closes a level before itself, but never below one.
-/

namespace DiagramText

/-- The text of a line of a sequence diagram in its canonical form. -/
def sequenceText (line : Text) : Text :=
  match LineKind.ofLine .sequence line with
  | .declaration => normalizeDeclaration (Text.trim line)
  | .statement => normalizeMessage (Text.trim line)
  | .note => normalizeNote (Text.trim line)
  | _ => Text.trim line

/-- Whether a kind of line belongs to the body of a sequence diagram. -/
def LineKind.isBody : LineKind → Bool
  | .blank | .header | .declaration => false
  | _ => true

/-- The lines whose kind passes a test, parted by blanks (`none`) as they are among `lines`. -/
def sequenceRegion (holds : LineKind → Bool) (lines : List Text) : List (Option Text) :=
  squeeze <| lines.filterMap fun line =>
    let kind := LineKind.ofLine .sequence line
    if kind = .blank then some none else if holds kind then some (some line) else none

/-- The depth that encloses a depth in the body. -/
def enclosingDepth (depth : Nat) : Nat :=
  max (depth - 1) 1

/-- The rows of the lines of the body, the first of them at a given depth. -/
def sequenceBody (depth : Nat) : List (Option Text) → Page
  | [] => []
  | none :: rest => none :: sequenceBody depth rest
  | some line :: rest =>
    let text := sequenceText line
    match LineKind.ofLine .sequence line with
    | .blockEnd => some ⟨enclosingDepth depth, text⟩ :: sequenceBody (enclosingDepth depth) rest
    | .blockElse => some ⟨enclosingDepth depth, text⟩ :: sequenceBody depth rest
    | .blockStart kind =>
      if kind = .and ∧ 1 < depth then some ⟨enclosingDepth depth, text⟩ :: sequenceBody depth rest
      else some ⟨depth, text⟩ :: sequenceBody (depth + 1) rest
    | _ => some ⟨depth, text⟩ :: sequenceBody depth rest

/-- The rows of a sequence diagram. -/
def sequencePage (lines : List Text) : Page :=
  let declarations := sequenceRegion (· = .declaration) lines
  let body := sequenceRegion LineKind.isBody lines
  some ⟨0, "sequenceDiagram".toList⟩ :: declarations.map (·.map fun line => ⟨1, sequenceText line⟩) ++
    (if declarations = [] ∨ body = [] then [] else [none]) ++ sequenceBody 1 body

/-- A sequence diagram in its canonical form, where one level of indentation is `unit`. -/
def formatSequence (unit text : Text) : Text :=
  (sequencePage (Text.lines text)).render unit

end DiagramText
