import DiagramText.Text.Basic

/-!
# Blanks

- `isBlank` is the property `White_Space` of Unicode 16.0;
- `Text.trimStart`, `Text.trimEnd` and `Text.trim` drop blanks at the ends of a text;
- `Text.indentation` is the run of blanks at its start (`indentation_append_trimStart`);
- `Text.remainder?` is the rest of a line once blanks have been skipped, never empty.
-/

namespace DiagramText

/-- Whether a character has the property `White_Space`. -/
def isBlank (c : Char) : Bool :=
  let n := c.toNat
  (0x09 ≤ n && n ≤ 0x0D) || n == 0x20 || n == 0x85 || n == 0xA0 || n == 0x1680 || (0x2000 ≤ n && n ≤ 0x200A) ||
    n == 0x2028 || n == 0x2029 || n == 0x202F || n == 0x205F || n == 0x3000

namespace Text

/-- The text without blanks at its start. -/
def trimStart (text : Text) : Text :=
  text.dropWhile isBlank

/-- The text without blanks at its end. -/
def trimEnd (text : Text) : Text :=
  (text.reverse.dropWhile isBlank).reverse

/-- The text without blanks at either end. -/
def trim (text : Text) : Text :=
  trimEnd (trimStart text)

/-- The blanks at the start of a text, verbatim. -/
def indentation (text : Text) : Text :=
  text.takeWhile isBlank

theorem indentation_append_trimStart (text : Text) : indentation text ++ trimStart text = text :=
  List.takeWhile_append_dropWhile

/-- Everything after the blanks at the start of `text`, as one line that reaches to the end of the text. The line is
never empty: where there are only blanks, the last of them is the line. -/
def remainder? (text : Text) : Option Text :=
  let line := match trimStart text with
    | [] => text.getLast?.toList
    | c :: rest => c :: rest
  if line = [] ∨ '\n' ∈ line then none else some line

/-- Everything after a non-empty run of blanks, as `remainder?` reads it. -/
def spacedRemainder? : Text → Option Text
  | [] => none
  | c :: rest => if isBlank c then remainder? rest else none

end Text

end DiagramText
