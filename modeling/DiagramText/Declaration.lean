import DiagramText.Text.Case

/-!
# Declarations of participants

A line such as `participant api as API Server` declares a participant of a sequence diagram.

- `Declaration.ofText?` reads a declaration and `Declaration.toText` writes one with single spaces and a lower-case
  keyword; `normalizeDeclaration` does both;
- `startsWithRole` recognizes the start of a declaration behind an indentation.
-/

namespace DiagramText

/-- How a participant is drawn. -/
inductive Role where
  | participant
  | actor
  deriving DecidableEq

namespace Role

/-- The keyword of a role. -/
def keyword : Role → String
  | participant => "participant"
  | actor => "actor"

/-- The role whose keyword a text starts with, in any case, and what follows it. -/
def ofText? (text : Text) : Option (Role × Text) :=
  [participant, actor].findSome? fun role => (Text.afterKeyword? role.keyword text).map (role, ·)

end Role

/-- Whether a line starts with the keyword of a role and a blank, behind its indentation. -/
def startsWithRole (line : Text) : Bool :=
  match Role.ofText? (Text.trimStart line) with
  | some (_, c :: _) => isBlank c
  | _ => false

/-- A declaration of a participant. -/
structure Declaration where
  role : Role
  id : Text
  /-- The name that is shown instead of the identifier, without blanks around it. -/
  shownName : Option Text
  deriving DecidableEq

namespace Declaration

/-- The shown name that follows an identifier up to the end of a line: none where the line ends there. -/
def shownName? : Text → Option (Option Text)
  | [] => some none
  | c :: rest =>
    if isBlank c then
      match Text.afterKeyword? "as" (Text.trimStart rest) with
      | some rest => (Text.spacedRemainder? rest).map fun shown => some (Text.trim shown)
      | none => none
    else none

/-- The declaration that a text consists of. -/
def ofText? (text : Text) : Option Declaration :=
  match Role.ofText? text with
  | some (role, c :: rest) =>
    let rest := Text.trimStart rest
    let id := rest.takeWhile (!isBlank ·)
    if isBlank c ∧ id ≠ [] then (shownName? (rest.dropWhile (!isBlank ·))).map (⟨role, id, ·⟩) else none
  | _ => none

/-- A declaration with single spaces and a lower-case keyword. -/
def toText (d : Declaration) : Text :=
  d.role.keyword.toList ++ ' ' :: d.id ++
    match d.shownName with
    | some shown => " as ".toList ++ shown
    | none => []

end Declaration

/-- A line with the spacing and the keyword of a declaration mended, if it is one. -/
def normalizeDeclaration (line : Text) : Text :=
  match Declaration.ofText? line with
  | some d => d.toText
  | none => line

end DiagramText
