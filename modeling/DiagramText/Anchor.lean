import DiagramText.Block
import DiagramText.Declaration

/-!
# Anchors

A new line is put behind an anchor, an existing line whose indentation it takes.

- `Document.lastNode?` is the last node declared between two lines of a flowchart, outside subgraphs that open there;
- `Document.lastParticipant?` is the last participant declared in a sequence diagram;
- `Document.nearestIndentation` is the indentation that holds at a line.
-/

namespace DiagramText

/-- A line and its indentation. -/
structure Anchor where
  line : Nat
  indent : Text
  deriving DecidableEq

/-- The last node declared in the given lines of a flowchart, outside the subgraphs that open among them, of which
`nested` are open before the first line; `found` is the last node declared before. -/
def lastNodeIn (nested : Nat) (found : Option Anchor) : List (Nat × Text) → Option Anchor
  | [] => found
  | (n, line) :: rest =>
    match LineKind.ofLine .flowchart line with
    | .blockStart _ => lastNodeIn (nested + 1) found rest
    | .blockEnd => lastNodeIn (nested - 1) found rest
    | .declaration => lastNodeIn nested (if nested = 0 then some ⟨n, Text.indentation line⟩ else found) rest
    | _ => lastNodeIn nested found rest

namespace Document

/-- The last node declared from line `first` to line `last` of a flowchart, outside the subgraphs that open there. -/
def lastNode? (d : Document) (first last : Nat) : Option Anchor :=
  lastNodeIn 0 none (d.numbered.filter fun (n, _) => first ≤ n && n ≤ last)

/-- The last line that declares a participant. -/
def lastParticipant? (d : Document) : Option Anchor :=
  (d.numbered.reverse.find? fun (_, line) => startsWithRole line).map fun (n, line) => ⟨n, Text.indentation line⟩

/-- The indentation of the nearest line at or above line `n` that is indented, or `fallback` where there is none. -/
def nearestIndentation (d : Document) (n : Nat) (fallback : Text) : Text :=
  (((d.lines.take n).reverse.map Text.indentation).find? (· ≠ [])).getD fallback

end Document

end DiagramText
