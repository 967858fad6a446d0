import DiagramText.Dialect

/-!
# Actions

The actions of an editor, with what a menu shows for each of them. `Action.appliesTo` says in which dialects an action
does anything, and `Action.ofId?` finds an action by its identifier.
-/

namespace DiagramText

/-- An action of an editor. -/
inductive Action where
  | newElement
  | newArrow
  | requestResponse
  | actionResponse
  | swapArrow
  | duplicateLine
  | prettify
  | nextDiagramType
  | previousDiagramType
  deriving DecidableEq

namespace Action

/-- Every action, in the order of the menu. -/
def all : List Action :=
  [newElement, newArrow, requestResponse, actionResponse, swapArrow, duplicateLine, prettify, nextDiagramType,
    previousDiagramType]

/-- The identifier of an action. -/
def id : Action → String
  | newElement => "new-element"
  | newArrow => "new-arrow"
  | requestResponse => "request-response"
  | actionResponse => "action-response"
  | swapArrow => "swap-arrow"
  | duplicateLine => "duplicate-line"
  | prettify => "prettify"
  | nextDiagramType => "next-diagram-type"
  | previousDiagramType => "previous-diagram-type"

/-- The name of an action in a menu. -/
def label : Action → String
  | newElement => "New Element"
  | newArrow => "New Arrow"
  | requestResponse => "Request-Response"
  | actionResponse => "Action-Response"
  | swapArrow => "Swap Arrow Direction"
  | duplicateLine => "Duplicate Line"
  | prettify => "Prettify Code"
  | nextDiagramType => "Next Diagram Type"
  | previousDiagramType => "Previous Diagram Type"

/-- What an action does, in one sentence. -/
def description : Action → String
  | newElement => "Insert a new node (flowchart) or participant (sequence)"
  | newArrow => "Insert an arrow template"
  | requestResponse => "Insert a request-response pair (sequence diagrams)"
  | actionResponse => "Insert an action-response pair (sequence diagrams)"
  | swapArrow => "Swap source and destination in the current line"
  | duplicateLine => "Duplicate the current line"
  | prettify => "Reformat the whole document"
  | nextDiagramType => "Switch to the next diagram type"
  | previousDiagramType => "Switch to the previous diagram type"

/-- Whether an action does anything in a dialect. -/
def appliesTo : Action → Dialect → Bool
  | requestResponse, dialect | actionResponse, dialect => dialect = .sequence
  | _, _ => true

/-- The action with a given identifier, in any case and between blanks. -/
def ofId? (raw : Text) : Option Action :=
  all.find? fun action => Text.asciiLower (Text.trim raw) = action.id.toList

end Action

end DiagramText
