import DiagramText.Text.Capital
import DiagramText.Text.Case
import DiagramText.Text.Identifier

/-!
# Replies

What a reply to a message says: `Get user details` is answered by `User details`, and `Run migration` by
`Migration done`. `SelectedMessage.ofText?` reads a selected message that is to be answered.
-/

namespace DiagramText

/-- What stands behind one of some verbs, written in any case and followed by blanks. -/
def behindVerb? (verbs : List String) (message : Text) : Option Text :=
  verbs.findSome? fun verb => (Text.afterKeyword? verb message).bind Text.spacedRemainder?

/-- The verbs that ask for something. -/
def requestVerbs : List String := ["get", "fetch", "request", "load", "retrieve"]

/-- The verbs that ask for something to be done. -/
def actionVerbs : List String := ["perform", "execute", "run", "process", "handle"]

/-- The reply to a request: what it asks for, capitalized. -/
def requestReply (message : Text) : Text :=
  Text.capitalize ((behindVerb? requestVerbs message).getD message)

/-- The reply to an action: what is done, or `Result` where the message does not say. -/
def actionReply (message : Text) : Text :=
  match behindVerb? actionVerbs message with
  | some object => Text.capitalize object ++ " done".toList
  | none => "Result".toList

/-- A message between two identifiers, as far as it matters for a reply. -/
structure SelectedMessage where
  source : Text
  target : Text
  body : Text
  deriving DecidableEq

namespace SelectedMessage

/-- What follows an arrow: one or two dashes and one or two angles. -/
def afterArrow? (text : Text) : Option Text :=
  ["->>".toList, "->".toList, "-->>".toList, "-->".toList].findSome? (Text.after? · text)

/-- The body behind a colon, without blanks around it. Where there are only blanks, the last of them that is no newline
is the body. -/
def body? (text : Text) : Option Text :=
  match Text.trim text with
  | [] => (text.reverse.find? (· ≠ '\n')).map ([·])
  | body => if '\n' ∈ body then none else some body

/-- The message that a selection consists of. -/
def ofText? (selection : Text) : Option SelectedMessage := do
  let (source, rest) ← Text.identifier? (Text.trimStart selection)
  let rest ← afterArrow? (Text.trimStart rest)
  let (target, rest) ← Text.identifier? (Text.trimStart rest)
  let rest ← Text.after? [':'] (Text.trimStart rest)
  let body ← body? rest
  return ⟨source, target, body⟩

end SelectedMessage

end DiagramText
