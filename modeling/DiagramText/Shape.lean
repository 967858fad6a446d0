import DiagramText.Text.Blank

/-!
# Node shapes

A node may carry its label in a shape: a run of opening brackets, the label, and a run of closing brackets, as in
`[..]`, `((..))`, `[(..)]`, or a label between two doubled `>`. A reader of this module returns the shape, brackets
included, and what follows it.
-/

namespace DiagramText

/-- Whether a character opens a shape. -/
def isOpener (c : Char) : Bool :=
  c == '[' || c == '(' || c == '\x7b'

/-- Whether a character closes a shape. -/
def isCloser (c : Char) : Bool :=
  c == ']' || c == '\x7d' || c == ')'

namespace Text

/-- A shape in brackets: everything from an opening bracket through the first run of closing ones. -/
def bracketShape? : Text → Option (Text × Text)
  | [] => none
  | c :: rest =>
    if isOpener c then
      let label := rest.takeWhile (!isCloser ·)
      let behind := rest.dropWhile (!isCloser ·)
      match behind.takeWhile isCloser with
      | [] => none
      | closers => some (c :: label ++ closers, behind.dropWhile isCloser)
    else none

/-- A shape in doubled angles: a label without `>`, between two of them on either side. -/
def angleShape? : Text → Option (Text × Text)
  | '>' :: '>' :: rest =>
    match rest.dropWhile (· ≠ '>') with
    | '>' :: '>' :: behind => some (['>', '>'] ++ rest.takeWhile (· ≠ '>') ++ ['>', '>'], behind)
    | _ => none
  | _ => none

/-- A label between two bars, and what follows it. -/
def barLabel? : Text → Option (Text × Text)
  | '|' :: rest =>
    match rest.dropWhile (· ≠ '|') with
    | _ :: behind => some (rest.takeWhile (· ≠ '|'), behind)
    | [] => none
  | _ => none

end Text

end DiagramText
