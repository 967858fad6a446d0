import DiagramText.Text.Basic

/-!
# Identifiers

An identifier is an ASCII letter or underscore followed by ASCII letters, digits and underscores.

- `Text.isIdentifier` recognizes one;
- `Text.identifier?` reads the longest one off the front of a text, with what follows it.
-/

namespace DiagramText

/-- Whether an identifier can start with the character. -/
def isIdentifierStart (c : Char) : Bool :=
  c.isAlpha || c == '_'

/-- Whether an identifier can go on with the character. -/
def isIdentifierPart (c : Char) : Bool :=
  c.isAlphanum || c == '_'

namespace Text

/-- Whether the text is an identifier. -/
def isIdentifier : Text → Bool
  | [] => false
  | c :: rest => isIdentifierStart c && rest.all isIdentifierPart

/-- The longest identifier that the text starts with, and what follows it. -/
def identifier? : Text → Option (Text × Text)
  | [] => none
  | c :: rest =>
    if isIdentifierStart c then some (c :: rest.takeWhile isIdentifierPart, rest.dropWhile isIdentifierPart) else none

end Text

end DiagramText
