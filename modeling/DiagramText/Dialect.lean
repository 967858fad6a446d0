import DiagramText.Text.Case

/-!
# Dialects

The two diagram languages, with what an editor shows for each of them, and their order in a cycle
(`previous_next`, `next_previous`). `Dialect.detect?` tells the dialect of a text from its first line that is not
blank.
-/

namespace DiagramText

/-- A diagram language. -/
inductive Dialect where
  | flowchart
  | sequence
  deriving DecidableEq

namespace Dialect

/-- Every dialect, in the order in which an editor cycles through them. -/
def all : List Dialect := [flowchart, sequence]

/-- The identifier of a dialect. -/
def id : Dialect → String
  | flowchart => "flowchart"
  | sequence => "sequence"

/-- The name of a dialect for people. -/
def displayName : Dialect → String
  | flowchart => "Flowchart"
  | sequence => "Sequence Diagram"

/-- Where a dialect is documented. -/
def documentation : Dialect → String
  | flowchart => "https://mermaid.js.org/syntax/flowchart.html"
  | sequence => "https://mermaid.js.org/syntax/sequenceDiagram.html"

/-- The document that a fresh diagram starts with. -/
def starter : Dialect → String
  | flowchart => "flowchart LR
  edge(Edge Service)
  platform_a(Platform A)
  platform_b(Platform B)

  edge --> platform_a
  edge --> platform_b
"
  | sequence => "sequenceDiagram
  actor user as User
  participant api as API Server
  participant db as Database

  user->>api: Get report
  api->>db: Run query
  db->>api: Query results
  api->>user: Report
"

/-- The next dialect in the cycle. -/
def next : Dialect → Dialect
  | flowchart => sequence
  | sequence => flowchart

/-- The previous dialect in the cycle. -/
def previous : Dialect → Dialect
  | flowchart => sequence
  | sequence => flowchart

theorem previous_next (d : Dialect) : d.next.previous = d := by
  cases d <;> rfl

theorem next_previous (d : Dialect) : d.previous.next = d := by
  cases d <;> rfl

/-- The dialect with a given identifier, in any case and between blanks. -/
def ofId? (raw : Text) : Option Dialect :=
  all.find? fun d => Text.asciiLower (Text.trim raw) = d.id.toList

/-- The dialect of a text, told by the word that its first line starts with. -/
def detect? (text : Text) : Option Dialect :=
  match ((Text.lines text).map Text.trim).find? (· ≠ []) with
  | none => none
  | some first =>
    let first := Text.asciiLower first
    if (Text.after? "flowchart".toList first).isSome || (Text.after? "graph".toList first).isSome then some flowchart
    else if (Text.after? "sequencediagram".toList first).isSome then some sequence
    else none

end Dialect

end DiagramText
