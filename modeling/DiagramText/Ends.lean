import DiagramText.Message
import DiagramText.Shape

/-!
# The ends of an arrow

A line with an arrow is cut around its two ends, and every other character of it is kept: what stands before the
source, between the ends, and after the target.

- `Ends.ofEdge?` cuts an edge of a flowchart and `Ends.ofMessage?` a message of a sequence diagram;
- `Ends.swap` exchanges the ends (`swap_swap`), and `swapEnds?` does so in a line.
-/

namespace DiagramText

/-- A line cut around the ends of its arrow. -/
structure Ends where
  before : Text
  source : Text
  /-- The arrow, its label, and the blanks around it. -/
  between : Text
  target : Text
  behind : Text
  deriving DecidableEq

namespace Ends

/-- The line that was cut. -/
def toText (e : Ends) : Text :=
  e.before ++ e.source ++ e.between ++ e.target ++ e.behind

/-- The source in the place of the target, and the target in that of the source. -/
def swap (e : Ends) : Ends :=
  { e with source := e.target, target := e.source }

theorem swap_swap (e : Ends) : e.swap.swap = e := rfl

/-! ## Edges -/

/-- The arrows of an edge whose ends can be swapped. -/
def edgeArrows : List Text :=
  ["-->".toList, "--o".toList, "--x".toList, "<-->".toList, "o--o".toList, "x--x".toList, "---".toList,
    "-.->".toList, "==>".toList]

/-- Whether the source of an edge can hold the character outside its shape. -/
def isSourceCharacter (c : Char) : Bool :=
  !isBlank c && !isOpener c && c != '<'

/-- Whether the source of an edge can end in the character, its shape left aside. -/
def isSourceEnd (c : Char) : Bool :=
  isSourceCharacter c && c != '-' && c != '=' && c != '.'

/-- Whether the target of an edge can hold the character outside its shape. A colon is left to messages. -/
def isTargetCharacter (c : Char) : Bool :=
  !isBlank c && !isOpener c && c != ':' && c != '|'

/-- Whether the target of an edge can start with the character. -/
def isTargetStart (c : Char) : Bool :=
  isTargetCharacter c && c != '>' && c != '-'

/-- The target of an edge with its shape, and what follows it, which is a single line. -/
def edgeTarget? : Text → Option (Text × Text)
  | [] => none
  | c :: rest =>
    if isTargetStart c then
      let name := c :: rest.takeWhile isTargetCharacter
      let behind := rest.dropWhile isTargetCharacter
      let (target, behind) := match Text.bracketShape? behind with
        | some (shape, behind) => (name ++ shape, behind)
        | none => (name, behind)
      if '\n' ∈ behind then none else some (target, behind)
    else none

/-- The label of an edge with its bars, empty where there is none, and what follows it. -/
def edgeLabel (text : Text) : Text × Text :=
  match Text.barLabel? text with
  | some (label, rest) => ('|' :: label ++ ['|'], rest)
  | none => ([], text)

/-- The label, the blanks and the target behind an arrow. -/
def edgeBehindArrow? (text : Text) : Option (Text × Text × Text) :=
  let (label, rest) := edgeLabel text
  (edgeTarget? (Text.trimStart rest)).map (label ++ Text.indentation rest, ·)

/-- Everything between the ends, the target, and what follows it, behind the source and its shape. -/
def edgeBehindSource? (text : Text) : Option (Text × Text × Text) :=
  (Text.firstOf? edgeArrows edgeBehindArrow? (Text.trimStart text)).map fun (arrow, gap, target, behind) =>
    (Text.indentation text ++ arrow ++ gap, target, behind)

/-- The shape of the source, empty where there is none, and what `edgeBehindSource?` reads behind it. -/
def edgeBehindName? (text : Text) : Option (Text × Text × Text × Text) :=
  match Text.bracketShape? text with
  | some (shape, rest) => (edgeBehindSource? rest).map (shape, ·)
  | none => (edgeBehindSource? text).map ([], ·)

/-- The ends of the edge that a line consists of. -/
def ofEdge? (line : Text) : Option Ends :=
  (Text.longestRun isSourceCharacter isSourceEnd edgeBehindName? (Text.trimStart line)).map
    fun (name, shape, between, target, behind) =>
      ⟨Text.indentation line, name ++ shape, between, target, behind⟩

/-! ## Messages -/

/-- The arrows of a message whose ends can be swapped. -/
def messageArrows : List Text :=
  ["-->>".toList, "->>".toList, "-->".toList, "->".toList, "--x".toList, "-x".toList, "--)".toList, "-)".toList]

/-- Whether a text can follow the target of a message: nothing, or a colon and a single line. -/
def endsMessage (text : Text) : Bool :=
  text.isEmpty ||
    match Text.trimStart text with
    | ':' :: body => !body.contains '\n'
    | _ => false

/-- The blanks and the target behind an arrow, and what follows them. -/
def messageBehindArrow? (text : Text) : Option (Text × Text × Text) :=
  let rest := Text.trimStart text
  let target := rest.takeWhile Message.isNameCharacter
  let behind := rest.dropWhile Message.isNameCharacter
  if target ≠ [] ∧ endsMessage behind then some (Text.indentation text, target, behind) else none

/-- Everything between the ends, the target, and what follows it, behind the source. -/
def messageBehindSource? (text : Text) : Option (Text × Text × Text) :=
  (Text.firstOf? messageArrows messageBehindArrow? (Text.trimStart text)).map fun (arrow, gap, target, behind) =>
    (Text.indentation text ++ arrow ++ gap, target, behind)

/-- The ends of the message that a line consists of. -/
def ofMessage? (line : Text) : Option Ends :=
  (Text.shortestRun Message.isNameCharacter messageBehindSource? (Text.trimStart line)).map
    fun (source, between, target, behind) => ⟨Text.indentation line, source, between, target, behind⟩

/-- The ends of the arrow in a line, read as an edge or else as a message. -/
def ofLine? (line : Text) : Option Ends :=
  (ofEdge? line).or (ofMessage? line)

end Ends

/-- A line with the ends of its arrow swapped, if it has an arrow. -/
def swapEnds? (line : Text) : Option Text :=
  (Ends.ofLine? line).map (·.swap.toText)

/-- A line with the ends of its arrow swapped, or the line itself. -/
def swapEnds (line : Text) : Text :=
  (swapEnds? line).getD line

end DiagramText
