import DiagramText.Text.Basic
import DiagramText.Text.Graphic

/-!
# Quoted text

A quoted text stands between double quotes. Graphic characters stand for themselves, but `"` and `\` follow a
backslash; the tabulator, the line ends and the null character have a letter of their own, and every other character is
written by its code point.
-/

namespace DiagramText

namespace Text

/-- A number in lower-case hexadecimal. -/
def hexadecimal (n : Nat) : Text :=
  Nat.toDigits 16 n

/-- How a character is written between quotes. -/
def quotedCharacter (c : Char) : Text :=
  if c = '"' ∨ c = '\\' then ['\\', c]
  else if c = '\t' then ['\\', 't']
  else if c = '\n' then ['\\', 'n']
  else if c = '\r' then ['\\', 'r']
  else if c = '\x00' then ['\\', '0']
  else if isGraphic c then [c]
  else ['\\', 'u', '\x7b'] ++ hexadecimal c.toNat ++ ['\x7d']

/-- A text between quotes. -/
def quoted (text : Text) : Text :=
  '"' :: text.flatMap quotedCharacter ++ ['"']

end Text

end DiagramText
