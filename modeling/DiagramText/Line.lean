import DiagramText.Dialect
import DiagramText.Message
import DiagramText.Shape
import DiagramText.Text.Identifier

/-!
# Lines

Each line of a diagram is of one kind, which its dialect decides by an ordered list of rules: the first rule that
recognizes the line counts, and a line that no rule recognizes is a statement. The order matters where a line could be
read in two ways: `end` is never a statement, and a shaped node that also carries an arrow is an edge.
-/

namespace DiagramText

/-! ## Kinds -/

/-- The kind of a block. -/
inductive BlockKind where
  | subgraph
  | loop
  | alt
  | opt
  | par
  | and
  | critical
  | break
  | rect
  deriving DecidableEq

namespace BlockKind

/-- The keyword that opens a block. -/
def keyword : BlockKind → String
  | subgraph => "subgraph"
  | loop => "loop"
  | alt => "alt"
  | opt => "opt"
  | par => "par"
  | and => "and"
  | critical => "critical"
  | «break» => "break"
  | rect => "rect"

/-- The kinds of blocks in a sequence diagram, in the order in which their keywords are tried. -/
def ofSequence : List BlockKind := [loop, alt, opt, par, and, critical, «break», rect]

end BlockKind

/-- The kind of a line. -/
inductive LineKind where
  | blank
  /-- A remark behind `%%`. -/
  | comment
  /-- The line that names the dialect. -/
  | header
  /-- A setting, such as a direction, which is laid out as it is. -/
  | directive
  | blockStart (kind : BlockKind)
  | blockEnd
  /-- A separator between the branches of a block. -/
  | blockElse
  /-- A shaped node of a flowchart, or a participant of a sequence diagram. -/
  | declaration
  | note
  | statement
  deriving DecidableEq

/-! ## Rules -/

/-- A rule says of which kind a line without blanks around it is, if it recognizes the line. -/
abbrev LineRule := Text → Option LineKind

namespace LineRule

/-- The rule that recognizes lines by a test. -/
def test (p : Text → Bool) (kind : LineKind) : LineRule :=
  fun body => if p body then some kind else none

/-- A line without characters is blank. -/
def blank : LineRule := test (·.isEmpty) .blank

/-- A line behind `%%` is a comment. -/
def comment : LineRule := test (fun body => (Text.after? "%%".toList body).isSome) .comment

/-- The word `end` closes a block. -/
def blockEnd : LineRule := test (Text.isKeyword "end") .blockEnd

/-- The header of a flowchart is the word `flowchart` or `graph`, or names a variant of the layout. -/
def flowchartHeader : LineRule :=
  test (fun body => Text.startsWithKeyword "flowchart" body || Text.startsWithKeyword "graph" body ||
    Text.startsWithLower "flowchart-" body) .header

/-- The word `subgraph` opens a block of a flowchart. -/
def subgraph : LineRule := test (Text.startsWithKeyword "subgraph") (.blockStart .subgraph)

/-- The word `direction` sets the direction of a flowchart. -/
def direction : LineRule := test (Text.startsWithKeyword "direction") .directive

/-- The arrows of both dialects. -/
def arrowTokens : List Text :=
  ["-->".toList, "---".toList, "-.->".toList, "==>".toList, "-->>".toList, "->>".toList, "->".toList, "--)".toList,
    "-)".toList, "-x".toList, "--x".toList]

/-- Whether an arrow occurs in a line. -/
def hasArrow (line : Text) : Bool :=
  arrowTokens.any (Text.contains · line)

/-- Whether a line starts with an identifier and the opening of a shape, blanks in between left aside. -/
def startsWithShape (line : Text) : Bool :=
  match Text.identifier? (Text.trimStart line) with
  | some (_, rest) =>
    match Text.trimStart rest with
    | c :: _ => isOpener c || c == '>'
    | [] => false
  | none => false

/-- Whether a line declares a shaped node and is no part of an edge. -/
def isNodeDeclaration (line : Text) : Bool :=
  startsWithShape line && !hasArrow line

/-- A shaped node without an arrow is a declaration. -/
def node : LineRule := test isNodeDeclaration .declaration

/-- The header of a sequence diagram is the single word `sequenceDiagram`. -/
def sequenceHeader : LineRule := test (Text.isKeyword "sequencediagram") .header

/-- A participant is declared by the keyword of its role and a space. -/
def participant : LineRule :=
  test (fun body => Text.startsWithLower "participant " body || Text.startsWithLower "actor " body) .declaration

/-- The word `else` separates branches. -/
def blockElse : LineRule := test (Text.startsWithKeyword "else") .blockElse

/-- The keyword of a block opens it. -/
def sequenceBlock : LineRule :=
  fun body => (BlockKind.ofSequence.find? fun kind => Text.startsWithKeyword kind.keyword body).map .blockStart

/-- The words that set something in a sequence diagram. -/
def sequenceDirective : LineRule :=
  test (fun body => ["autonumber", "activate", "deactivate", "title"].any (Text.startsWithKeyword · body)) .directive

/-- The word `note` starts a note, unless the line is a message whose source is so named. -/
def note : LineRule :=
  test (fun body => Text.startsWithKeyword "note" body && (Message.ofText? body).isNone) .note

/-- The rules of a dialect in their order. -/
def ofDialect : Dialect → List LineRule
  | .flowchart => [blank, comment, flowchartHeader, blockEnd, subgraph, direction, node]
  | .sequence => [blank, comment, sequenceHeader, participant, blockEnd, blockElse, sequenceBlock, sequenceDirective,
      note]

end LineRule

/-- The kind of a line in a dialect. -/
def LineKind.ofLine (dialect : Dialect) (line : Text) : LineKind :=
  ((LineRule.ofDialect dialect).findSome? (· (Text.trim line))).getD .statement

end DiagramText
