import DiagramText.Document
import DiagramText.Line

/-!
# Blocks

A block runs from an opening line to the closing line that belongs to it.

- `Document.closedBlocks` lists the blocks of a document in the order in which they close: a closing line belongs to
  the nearest opening line before it that is still open, or to none;
- `Document.enclosingBlock?` is the innermost block around a line, the first of them to close.

In a sequence diagram `and` separates branches while a block is open and opens a block otherwise.
-/

namespace DiagramText

/-- A line that opens a block. -/
structure BlockOpening where
  line : Nat
  /-- The indentation of the line. -/
  indent : Text
  kind : BlockKind
  deriving DecidableEq

/-- A block with the line that closes it. -/
structure Block extends BlockOpening where
  lastLine : Nat
  deriving DecidableEq

namespace Block

/-- Whether a line lies strictly between the first and the last line of a block. -/
def encloses (b : Block) (n : Nat) : Bool :=
  b.line < n && n < b.lastLine

/-- The blocks that close in the given lines, the first of which is line `n`, where `opened` holds the blocks that are
open before it, the innermost first. -/
def closedIn (dialect : Dialect) (n : Nat) (opened : List BlockOpening) : List Text → List Block
  | [] => []
  | line :: rest =>
    match LineKind.ofLine dialect line with
    | .blockStart kind =>
      if kind = .and ∧ opened ≠ [] then closedIn dialect (n + 1) opened rest
      else closedIn dialect (n + 1) (⟨n, Text.indentation line, kind⟩ :: opened) rest
    | .blockEnd =>
      match opened with
      | [] => closedIn dialect (n + 1) [] rest
      | opening :: opened => ⟨opening, n⟩ :: closedIn dialect (n + 1) opened rest
    | _ => closedIn dialect (n + 1) opened rest

end Block

namespace Document

/-- The blocks of a document that are closed, in the order in which they close. -/
def closedBlocks (d : Document) (dialect : Dialect) : List Block :=
  Block.closedIn dialect 1 [] d.lines

/-- The innermost closed block around a line. -/
def enclosingBlock? (d : Document) (dialect : Dialect) (n : Nat) : Option Block :=
  (d.closedBlocks dialect).find? (·.encloses n)

/-- The innermost subgraph around a line of a flowchart. -/
def enclosingSubgraph? (d : Document) (n : Nat) : Option Block :=
  d.enclosingBlock? .flowchart n

end Document

end DiagramText
