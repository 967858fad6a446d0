import DiagramText.Insertion

/-!
# Sessions

`runAction` answers an action at a cursor of a document: with an edit, with a switch to another dialect, or with
nothing. A session keeps the text and the context of an editor while actions follow each other (`Session.step`).
-/

namespace DiagramText

/-- What an action comes to. -/
inductive Outcome where
  | edit (plan : EditPlan)
  | switchDialect (dialect : Dialect)
  | nothing
  deriving DecidableEq

/-- An edit if there is a plan, or nothing. -/
def Outcome.ofPlan? : Option EditPlan → Outcome
  | some plan => edit plan
  | none => nothing

/-- What an action comes to at a cursor of a document, where `selection` is the selected text. -/
def runAction (action : Action) (d : Document) (cursor : Position) (selection : Text) (context : EditContext) :
    Outcome :=
  let n := cursor.line
  if action.appliesTo context.dialect then
    match action with
    | .newElement => .edit (newElement d n selection context)
    | .newArrow => .edit (newArrow d n selection context)
    | .requestResponse => .ofPlan? (messagePair? .request d n selection context)
    | .actionResponse => .ofPlan? (messagePair? .action d n selection context)
    | .swapArrow => .ofPlan? (swapLine? d n)
    | .duplicateLine => .edit (duplicateLine d n)
    | .prettify => .ofPlan? (prettifyDocument? d context.indentUnit)
    | .nextDiagramType => .switchDialect context.dialect.next
    | .previousDiagramType => .switchDialect context.dialect.previous
  else .nothing

/-- The text that an editor shows, and its context. -/
structure Session where
  text : Text
  context : EditContext
  deriving DecidableEq

namespace Session

/-- The document of a session. -/
def document (s : Session) : Document :=
  .ofText s.text

/-- The session after an outcome, if the outcome changes it. -/
def react? (s : Session) : Outcome → Option Session
  | .edit plan => (plan.applyTo? s.document).map ({ s with text := · })
  | .switchDialect dialect => some { s with context := { s.context with dialect := dialect } }
  | .nothing => none

/-- The outcome of an action in a session. -/
def outcome (s : Session) (action : Action) (cursor : Position) (selection : Text) : Outcome :=
  runAction action s.document cursor selection s.context

/-- The session after an action, if the action changes it. -/
def step? (s : Session) (action : Action) (cursor : Position) (selection : Text) : Option Session :=
  s.react? (s.outcome action cursor selection)

end Session

end DiagramText
