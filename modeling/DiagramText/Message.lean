import DiagramText.Text.Blank
import DiagramText.Text.Choice
import DiagramText.Text.Run

/-!
# Messages

A message of a sequence diagram goes from a source to a target and carries a text behind a colon.

- `Message.ofText?` reads a message: the source is as short as it can be, and of the arrows in `Message.arrows` the
  first one behind which a target, a colon and a text can be read is taken;
- `Message.toText` writes a message without blanks but one after the colon, and `normalizeMessage` does both.
-/

namespace DiagramText

/-- A message of a sequence diagram. -/
structure Message where
  source : Text
  arrow : Text
  target : Text
  /-- Everything behind the colon, without blanks around it. -/
  body : Text
  deriving DecidableEq

namespace Message

/-- The arrows of a message, in the order in which they are tried. -/
def arrows : List Text :=
  ["->>".toList, "-->>".toList, "->".toList, "-->".toList, "-x".toList, "--x".toList, "-)".toList, "--)".toList]

/-- Whether the name of a target can hold the character. -/
def isNameCharacter (c : Char) : Bool :=
  !isBlank c && c != ':'

/-- The target, the colon and the body that follow an arrow. -/
def targetAndBody? (text : Text) : Option (Text × Text) :=
  let text := Text.trimStart text
  let target := text.takeWhile isNameCharacter
  match Text.trimStart (text.dropWhile isNameCharacter) with
  | ':' :: rest =>
    let body := Text.trimStart rest
    if target = [] ∨ '\n' ∈ body then none else some (target, Text.trim body)
  | _ => none

/-- The arrow, the target and the body that follow a source. -/
def arrowAndBody? (text : Text) : Option (Text × Text × Text) :=
  Text.firstOf? arrows targetAndBody? (Text.trimStart text)

/-- The message that a text consists of. -/
def ofText? (text : Text) : Option Message :=
  (Text.shortestRun (!isBlank ·) arrowAndBody? text).map fun (source, arrow, target, body) =>
    ⟨source, arrow, target, body⟩

/-- A message with a single space, behind its colon, and none where its body is empty. -/
def toText (m : Message) : Text :=
  Text.trimEnd (m.source ++ m.arrow ++ m.target ++ ':' :: ' ' :: m.body)

end Message

/-- A line with the spacing of a message mended, if it is one. -/
def normalizeMessage (line : Text) : Text :=
  match Message.ofText? line with
  | some m => m.toText
  | none => line

end DiagramText
