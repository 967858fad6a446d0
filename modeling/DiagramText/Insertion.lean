import DiagramText.Anchor
import DiagramText.FreshNode
import DiagramText.Plan
import DiagramText.Reply

/-!
# Insertions

Plans that insert new lines. Every new line stands behind an anchor line, with an indentation of its own, so that no
existing line changes (`insertBelow`).

- `newElement` inserts a node or a participant, `newArrow` an edge or a message;
- `messagePair?` inserts a message and its reply, or the reply to a selected message.

A selected identifier is used for what is inserted; otherwise the user fills in a stop.
-/

namespace DiagramText

/-- The plan that inserts content below line `n`, behind an indentation. Below the last line it ends with a newline. -/
def insertBelow (d : Document) (action : Action) (n : Nat) (indent : Text) (content : Snippet → Snippet) : EditPlan :=
  let snippet := content (.plain ('\n' :: indent))
  ⟨action, .endOfLine d n, if n = d.lineCount then snippet.text ['\n'] else snippet⟩

/-! ## Elements -/

/-- The plan that inserts a participant below the last one. -/
def newParticipant (d : Document) (selection indentUnit : Text) : EditPlan :=
  let anchor := d.lastParticipant?.getD ⟨1, indentUnit⟩
  insertBelow d .newElement anchor.line anchor.indent fun s =>
    let s := s.text "participant ".toList
    if Text.isIdentifier selection then s.text (selection ++ " as ".toList ++ Text.titleCase selection)
    else ((s.stop 1 "new_participant".toList).text " as ".toList).mirror 1 .titleCase |>.finish

/-- Where a new node goes: below the last node of the subgraph around line `n`, or of the whole document where there is
no subgraph around it. Where there is no such node, it goes below the line that opens the subgraph, one level deeper,
or below the first line. -/
def nodeAnchor (d : Document) (n : Nat) (indentUnit : Text) : Anchor :=
  match d.enclosingSubgraph? n with
  | some block =>
    (d.lastNode? (block.line + 1) (block.lastLine - 1)).getD ⟨block.line, block.indent ++ indentUnit⟩
  | none => (d.lastNode? 2 d.lineCount).getD ⟨1, indentUnit⟩

/-- The plan that inserts a node into the subgraph around line `n`. -/
def newNode (d : Document) (n : Nat) (selection indentUnit : Text) : EditPlan :=
  let anchor := nodeAnchor d n indentUnit
  insertBelow d .newElement anchor.line anchor.indent fun s =>
    if Text.isIdentifier selection then s.text (selection ++ '(' :: Text.titleCase selection ++ [')'])
    else (((s.stop 1 (freshNode d.value)).text ['(']).mirror 1 .titleCase).text [')'] |>.finish

/-- The plan that inserts a participant or a node. -/
def newElement (d : Document) (n : Nat) (selection : Text) (context : EditContext) : EditPlan :=
  match context.dialect with
  | .sequence => newParticipant d selection context.indentUnit
  | .flowchart => newNode d n selection context.indentUnit

/-! ## Arrows -/

/-- Adds the source of a new arrow: the selected identifier, or a stop with index 1. -/
def addSource (selection : Text) (s : Snippet) : Snippet :=
  if Text.isIdentifier selection then s.text selection else s.stop 1 "A".toList

/-- The first index that is free for the stops behind the source. -/
def firstFreeStop (selection : Text) : Nat :=
  if Text.isIdentifier selection then 1 else 2

/-- The plan that inserts an edge or a message below line `n`. -/
def newArrow (d : Document) (n : Nat) (selection : Text) (context : EditContext) : EditPlan :=
  let target := firstFreeStop selection
  insertBelow d .newArrow n (d.nearestIndentation n context.indentUnit) fun s =>
    let s := addSource selection s
    match context.dialect with
    | .sequence =>
      (((s.text "->>".toList).stop target "B".toList).text ": ".toList).stop (target + 1) "message".toList |>.finish
    | .flowchart => (s.text " --> ".toList).stop target "B".toList |>.finish

/-! ## Message pairs -/

/-- What a pair of messages is about. -/
inductive PairKind where
  | request
  | action
  deriving DecidableEq

namespace PairKind

/-- The action that inserts a pair. -/
def toAction : PairKind → Action
  | request => .requestResponse
  | action => .actionResponse

/-- The reply to a selected message. -/
def reply : PairKind → Text → Text
  | request => requestReply
  | action => actionReply

/-- Adds the body of the first message, whose stop has a given index. -/
def addBody (index : Nat) : PairKind → Snippet → Snippet
  | request, s => (s.text "Get ".toList).stop index "entity".toList
  | action, s => s.stop index "Perform".toList

/-- Adds the body of the second message. -/
def addReply (index : Nat) : PairKind → Snippet → Snippet
  | request, s => s.mirror index .capitalizeFirst
  | action, s => s.text "Success".toList

end PairKind

/-- Adds a message and, on a line of its own behind an indentation, its reply. -/
def addPair (kind : PairKind) (selection indent : Text) (s : Snippet) : Snippet :=
  let target := firstFreeStop selection
  let s := ((addSource selection s).text "->>".toList).stop target "B".toList
  let s := kind.addBody (target + 1) (s.text ": ".toList)
  let s := ((s.text ('\n' :: indent)).stop target "B".toList).text "->>".toList
  (kind.addReply (target + 1) ((addSource selection s).text ": ".toList)).finish

/-- The plan that inserts a pair of messages below line `n`, or the reply to a selected message. Only sequence diagrams
have messages. -/
def messagePair? (kind : PairKind) (d : Document) (n : Nat) (selection : Text) (context : EditContext) :
    Option EditPlan :=
  match context.dialect with
  | .flowchart => none
  | .sequence =>
    let indent := d.nearestIndentation n context.indentUnit
    some <| insertBelow d kind.toAction n indent fun s =>
      match SelectedMessage.ofText? selection with
      | some m => (s.text (m.target ++ "->>".toList ++ m.source ++ ": ".toList ++ kind.reply m.body)).finish
      | none => addPair kind selection indent s

end DiagramText
