import DiagramText.Text.Capital
import DiagramText.Text.Natural

/-!
# Snippets

A snippet is a text to insert, with stops for a user to fill in. It is a list of segments in which no text is empty
and no two texts are neighbours (`Snippet.normal`).

- `Snippet.text`, `Snippet.stop`, `Snippet.mirror` and `Snippet.finish` add a segment at the end;
- `Snippet.toText` is the text of a snippet with every stop at its default;
- `Snippet.toTemplate` writes a snippet in the notation of editors that let a user fill in stops;
- `Snippet.tabStops` lists the stops and where they lie in the text.
-/

namespace DiagramText

/-! ## Segments -/

/-- How a mirror changes the value of its stop. -/
inductive Transform where
  | titleCase
  | capitalizeFirst
  deriving DecidableEq

namespace Transform

/-- The changed value. -/
def apply : Transform → Text → Text
  | titleCase => Text.titleCase
  | capitalizeFirst => Text.capitalize

/-- The pattern and the replacement by which a template describes a transform. -/
def rule : Transform → String
  | titleCase => "([a-z]+)(_)?/$\x7b1:/capitalize\x7d$\x7b2:+ \x7d/g"
  | capitalizeFirst => "^(.)/$\x7b1:/upcase\x7d/"

end Transform

/-- A part of a snippet. -/
inductive Segment where
  | text (text : Text)
  /-- A place for a value; stops with equal indices share their value. -/
  | stop (index : Nat) (default : Text)
  /-- A changed copy of the value of a stop. -/
  | mirror (index : Nat) (transform : Transform)
  /-- The place of the cursor once all stops are filled in. -/
  | final
  deriving DecidableEq

namespace Segment

/-- Whether a segment is a text. -/
def isText : Segment → Bool
  | text _ => true
  | _ => false

/-- Whether a segment is a stop. -/
def isStop : Segment → Bool
  | stop _ _ => true
  | _ => false

end Segment

/-- Whether the first of some segments is a text. -/
def startsWithText : List Segment → Bool
  | [] => false
  | s :: _ => s.isText

/-- Whether no text in a list of segments is empty and no two texts are neighbours. -/
def normalSegments : List Segment → Bool
  | [] => true
  | s :: rest => s ≠ .text [] && !(s.isText && startsWithText rest) && normalSegments rest

/-- Adds a text at the end, to the last segment where that is a text. -/
def appendText (added : Text) : List Segment → List Segment
  | [] => [.text added]
  | [.text t] => [.text (t ++ added)]
  | s :: rest => s :: appendText added rest

section Normal

theorem normalSegments_concat {segments : List Segment} {s : Segment} (h : normalSegments segments = true)
    (hs : s.isText = false) : normalSegments (segments ++ [s]) = true := by
  induction segments with
  | nil => cases s <;> simp_all [normalSegments, Segment.isText]
  | cons t rest ih =>
    cases rest with
    | nil => cases s <;> simp_all [normalSegments, startsWithText, Segment.isText]
    | cons u rest => simp_all [normalSegments, startsWithText]

theorem startsWithText_appendText (added : Text) (s : Segment) (rest : List Segment) :
    startsWithText (appendText added (s :: rest)) = s.isText := by
  unfold appendText
  split
  · simp_all
  · simp_all [startsWithText, Segment.isText]
  · simp_all [startsWithText]

theorem normalSegments_appendText {segments : List Segment} {added : Text} (h : normalSegments segments = true)
    (ha : added ≠ []) : normalSegments (appendText added segments) = true := by
  induction segments with
  | nil => simp [appendText, normalSegments, startsWithText, ha]
  | cons s rest ih =>
    cases rest with
    | nil => cases s <;> simp_all [appendText, normalSegments, startsWithText, Segment.isText]
    | cons u rest =>
      have hu := startsWithText_appendText added u rest
      simp_all [appendText, normalSegments, startsWithText]

end Normal

/-! ## Building -/

/-- A text to insert, with stops. -/
structure Snippet where
  segments : List Segment
  normal : normalSegments segments = true
  deriving DecidableEq

namespace Snippet

/-- The snippet without segments. -/
def empty : Snippet :=
  ⟨[], rfl⟩

/-- Adds a text at the end. -/
def text (s : Snippet) (added : Text) : Snippet :=
  if h : added = [] then s else ⟨appendText added s.segments, normalSegments_appendText s.normal h⟩

/-- A snippet without stops. -/
def plain (text : Text) : Snippet :=
  empty.text text

/-- Adds a stop at the end. -/
def stop (s : Snippet) (index : Nat) (default : Text) : Snippet :=
  ⟨s.segments ++ [.stop index default], normalSegments_concat s.normal rfl⟩

/-- Adds a mirror of a stop at the end. -/
def mirror (s : Snippet) (index : Nat) (transform : Transform) : Snippet :=
  ⟨s.segments ++ [.mirror index transform], normalSegments_concat s.normal rfl⟩

/-- Adds the final place of the cursor at the end. -/
def finish (s : Snippet) : Snippet :=
  ⟨s.segments ++ [.final], normalSegments_concat s.normal rfl⟩

/-! ## Reading -/

/-- Whether a snippet has a stop. -/
def hasStops (s : Snippet) : Bool :=
  s.segments.any Segment.isStop

/-- The default of a stop, which is the one where the index first occurs, and empty where it never does. -/
def defaultOf (s : Snippet) (index : Nat) : Text :=
  (s.segments.findSome? fun
    | .stop i default => if i = index then some default else none
    | _ => none).getD []

/-- The text of a segment with every stop at its default. -/
def resolve (s : Snippet) : Segment → Text
  | .text t => t
  | .stop _ default => default
  | .mirror index transform => transform.apply (s.defaultOf index)
  | .final => []

/-- The text of a snippet with every stop at its default. -/
def toText (s : Snippet) : Text :=
  s.segments.flatMap s.resolve

/-- A text with a backslash before each character that has a meaning in templates. -/
def escape (text : Text) : Text :=
  text.flatMap fun c => if c = '$' ∨ c = '\x7d' ∨ c = '\\' then ['\\', c] else [c]

/-- A segment in the notation of templates. -/
def segmentTemplate : Segment → Text
  | .text t => escape t
  | .stop index default => '$' :: '\x7b' :: Text.ofNat index ++ ':' :: escape default ++ ['\x7d']
  | .mirror index transform => '$' :: '\x7b' :: Text.ofNat index ++ '/' :: transform.rule.toList ++ ['\x7d']
  | .final => ['$', '0']

/-- A snippet in the notation of templates. -/
def toTemplate (s : Snippet) : Text :=
  s.segments.flatMap segmentTemplate

end Snippet

/-! ## Stops -/

/-- A stop, its default, and where it first occurs in the text of its snippet, counted in characters. -/
structure TabStop where
  index : Nat
  default : Text
  first : Nat
  last : Nat
  deriving DecidableEq

namespace Snippet

/-- The first occurrence of each stop in some segments, the first of which starts at an offset in the text; `seen`
holds the indices of the stops before. -/
def stopsFrom (s : Snippet) (offset : Nat) (seen : List Nat) : List Segment → List TabStop
  | [] => []
  | segment :: rest =>
    let behind := offset + (s.resolve segment).length
    match segment with
    | .stop index default =>
      if index ∈ seen then s.stopsFrom behind seen rest
      else ⟨index, default, offset, behind⟩ :: s.stopsFrom behind (index :: seen) rest
    | _ => s.stopsFrom behind seen rest

/-- The stops of a snippet in the order of their indices. -/
def tabStops (s : Snippet) : List TabStop :=
  (s.stopsFrom 0 [] s.segments).mergeSort fun a b => a.index ≤ b.index

end Snippet

end DiagramText
