import DiagramText.Text.Case
import DiagramText.Text.Run

/-!
# Notes

A line such as `note right of a: text` puts a note beside or over participants of a sequence diagram. `Note.ofText?`
reads a note, `Note.toText` writes one with single spaces and lower-case keywords, and `normalizeNote` does both.
-/

namespace DiagramText

/-- Where a note stands. -/
inductive NotePosition where
  | across
  | leftOf
  | rightOf
  deriving DecidableEq

/-- The keyword of a position. -/
def NotePosition.keyword : NotePosition → String
  | across => "over"
  | leftOf => "left of"
  | rightOf => "right of"

/-- A note of a sequence diagram. -/
structure Note where
  position : NotePosition
  /-- The participants that the note belongs to, without blanks around them. -/
  participants : Text
  /-- Everything behind the colon, without blanks around it. -/
  body : Text
  deriving DecidableEq

namespace Note

/-- The body that follows a colon, if it is a single line behind its blanks. -/
def body? : Text → Option Text
  | ':' :: rest =>
    let body := Text.trimStart rest
    if '\n' ∈ body then none else some (Text.trim body)
  | _ => none

/-- The participants before the first colon behind which a body can be read, and that body. -/
def participantsAndBody? (text : Text) : Option (Text × Text) :=
  Text.shortestRun (· ≠ '\n') body? text

/-- Participants and body behind blanks, of which there must be one at least. Where nothing stands between the blanks
and the colon, the last of several blanks stands for the participants. -/
def spacedParticipantsAndBody? : Text → Option (Text × Text)
  | [] => none
  | c :: rest =>
    if isBlank c then
      match participantsAndBody? (Text.trimStart rest) with
      | some read => some read
      | none =>
        match (Text.indentation rest).getLast? with
        | some last => participantsAndBody? (last :: Text.trimStart rest)
        | none => none
    else none

/-- What follows a position, and a position before it. -/
def positionAndRest? (text : Text) : Option (NotePosition × Text) :=
  [NotePosition.across, .leftOf, .rightOf].findSome? fun position =>
    (Text.afterKeyword? position.keyword text).map (position, ·)

/-- The note that a text consists of. -/
def ofText? (text : Text) : Option Note :=
  match Text.afterKeyword? "note" text with
  | some (c :: rest) =>
    if isBlank c then
      match positionAndRest? (Text.trimStart rest) with
      | some (position, rest) =>
        (spacedParticipantsAndBody? rest).map fun (participants, body) => ⟨position, Text.trim participants, body⟩
      | none => none
    else none
  | _ => none

/-- A note with single spaces and lower-case keywords, and no space at its end where its body is empty. -/
def toText (n : Note) : Text :=
  Text.trimEnd ("note ".toList ++ n.position.keyword.toList ++ ' ' :: n.participants ++ ':' :: ' ' :: n.body)

end Note

/-- A line with the spacing and the keywords of a note mended, if it is one. -/
def normalizeNote (line : Text) : Text :=
  match Note.ofText? line with
  | some n => n.toText
  | none => line

end DiagramText
