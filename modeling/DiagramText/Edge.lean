import DiagramText.Shape
import DiagramText.Text.Run

/-!
# Edges

An edge statement of a flowchart joins a source to a target by an arrow, which may carry a label between bars.

- `ArrowForm.cuts` lists every arrow of one form that a text starts with, longest first (`append_of_mem_cuts`);
- `Edge.ofText?` reads an edge statement: the source is as long as it can be, and of the arrow forms in `Edge.arrows`
  the first one behind which a target can be read is taken;
- `Edge.toText` writes an edge with single spaces around its arrow, and `normalizeEdge` does both.
-/

namespace DiagramText

/-! ## Arrows -/

/-- The form of an arrow: a fixed text, or a line of two or more equal strokes between a tail and a head. -/
inductive ArrowForm where
  | exact (arrow : Text)
  | strokes (tail : Text) (stroke : Char) (head : Text)

namespace ArrowForm

/-- The ways to cut an arrow with `n` strokes or fewer, but at least two, off a text that starts with `n` strokes. -/
def strokeCuts (stroke : Char) (head text : Text) : Nat → List (Text × Text)
  | 0 => []
  | 1 => []
  | n + 2 =>
    match Text.after? head (text.drop (n + 2)) with
    | some rest => (List.replicate (n + 2) stroke ++ head, rest) :: strokeCuts stroke head text (n + 1)
    | none => strokeCuts stroke head text (n + 1)

/-- The arrows of a form that a text starts with, each with what follows it, the longest first. -/
def cuts : ArrowForm → Text → List (Text × Text)
  | exact arrow, text => ((Text.after? arrow text).map (arrow, ·)).toList
  | strokes tail stroke head, text =>
    match Text.after? tail text with
    | none => []
    | some text =>
      (strokeCuts stroke head text (text.takeWhile (· == stroke)).length).map fun (arrow, rest) => (tail ++ arrow, rest)

end ArrowForm

/-! ## Edge statements -/

/-- An edge statement. -/
structure Edge where
  /-- The source with its shape. -/
  source : Text
  arrow : Text
  /-- The label without its bars. -/
  label : Option Text
  /-- Everything behind the arrow and the label, without blanks around it. -/
  target : Text
  deriving DecidableEq

namespace Edge

/-- The arrow forms of an edge, in the order in which they are tried. -/
def arrows : List ArrowForm := [
  .strokes [] '-' ['>'], .exact "--o".toList, .exact "--x".toList, .strokes ['<'] '-' ['>'], .exact "o--o".toList,
  .exact "x--x".toList, .strokes [] '-' [], .exact "-.->".toList, .exact ".->".toList, .strokes [] '=' ['>'],
  .exact "<==".toList, .strokes [] '=' []]

/-- Whether the source of an edge can hold the character outside its shape. -/
def isSourceCharacter (c : Char) : Bool :=
  !isBlank c && c != '<'

/-- Whether the source of an edge can end in the character, its shape left aside: arrows are drawn from the others. -/
def isSourceEnd (c : Char) : Bool :=
  !isBlank c && c != '<' && c != '-' && c != '=' && c != '.'

/-- The label and the target that follow an arrow. A text between bars is the label if a target follows it. -/
def labelAndTarget? (text : Text) : Option (Option Text × Text) :=
  let labelled := match Text.barLabel? (Text.trimStart text) with
    | some (label, rest) => (Text.remainder? rest).map (some label, ·)
    | none => none
  match labelled with
  | some (label, target) => some (label, Text.trim target)
  | none => (Text.remainder? text).map fun target => (none, Text.trim target)

/-- The arrow, the label and the target that follow a source. -/
def arrowAndTarget? (text : Text) : Option (Text × Option Text × Text) :=
  let text := Text.trimStart text
  arrows.findSome? fun form => (form.cuts text).findSome? fun (arrow, rest) =>
    (labelAndTarget? rest).map (arrow, ·)

/-- The shape of the source, empty where there is none, and what follows it up to the end of the statement. -/
def shapeAndTarget? (text : Text) : Option (Text × Text × Option Text × Text) :=
  let shaped := match (Text.bracketShape? text).or (Text.angleShape? text) with
    | some (shape, rest) => (arrowAndTarget? rest).map (shape, ·)
    | none => none
  match shaped with
  | some read => some read
  | none => (arrowAndTarget? text).map ([], ·)

/-- The edge statement that a text consists of. -/
def ofText? (text : Text) : Option Edge :=
  (Text.longestRun isSourceCharacter isSourceEnd shapeAndTarget? text).map
    fun (name, shape, arrow, label, target) => ⟨name ++ shape, arrow, label, target⟩

/-- A label between bars, or nothing. -/
def labelText : Option Text → Text
  | some label => '|' :: label ++ ['|']
  | none => []

/-- An edge statement with single spaces around its arrow. -/
def toText (e : Edge) : Text :=
  e.source ++ ' ' :: e.arrow ++ labelText e.label ++ ' ' :: e.target

end Edge

/-- A line with the spacing of an edge statement mended, if it is one. -/
def normalizeEdge (line : Text) : Text :=
  match Edge.ofText? line with
  | some e => e.toText
  | none => line

/-! ## Cuts -/

section Cuts

/-- Strokes that a text starts with can be cut off it. -/
theorem replicate_append_drop {stroke : Char} {text : Text} {n : Nat}
    (h : n ≤ (text.takeWhile (· == stroke)).length) : List.replicate n stroke ++ text.drop n = text := by
  induction n generalizing text with
  | zero => simp
  | succ n ih =>
    cases text with
    | nil => simp at h
    | cons c rest =>
      rw [List.takeWhile_cons] at h
      split at h
      · next hc =>
        simp only [beq_iff_eq] at hc
        simp only [List.length_cons, Nat.add_le_add_iff_right] at h
        simp [List.replicate_succ, hc, ih h]
      · simp at h

theorem append_of_mem_strokeCuts {stroke : Char} {head text : Text} {n : Nat} {arrow rest : Text}
    (hn : n ≤ (text.takeWhile (· == stroke)).length) (h : (arrow, rest) ∈ ArrowForm.strokeCuts stroke head text n) :
    arrow ++ rest = text := by
  fun_induction ArrowForm.strokeCuts stroke head text n with
  | case1 => simp at h
  | case2 => simp at h
  | case3 n rest' h' ih =>
    rcases List.mem_cons.mp h with h | h
    · obtain ⟨rfl, rfl⟩ := Prod.mk.injEq .. ▸ h
      rw [List.append_assoc, ← Text.after?_eq_some_iff.mp h', replicate_append_drop hn]
    · exact ih (by omega) h
  | case4 n h' ih => exact ih (by omega) h

/-- An arrow that is cut off a text is followed by the rest of the text. -/
theorem append_of_mem_cuts {form : ArrowForm} {text arrow rest : Text} (h : (arrow, rest) ∈ form.cuts text) :
    arrow ++ rest = text := by
  cases form with
  | exact t =>
    simp only [ArrowForm.cuts, Option.mem_toList, Option.map_eq_some_iff, Prod.mk.injEq] at h
    obtain ⟨r, hr, rfl, rfl⟩ := h
    exact (Text.after?_eq_some_iff.mp hr).symm
  | strokes tail stroke head =>
    simp only [ArrowForm.cuts] at h
    split at h
    · simp at h
    · next text' ht =>
      obtain ⟨⟨a, r⟩, ha, h⟩ := List.mem_map.mp h
      obtain ⟨rfl, rfl⟩ := Prod.mk.injEq .. ▸ h
      rw [List.append_assoc, append_of_mem_strokeCuts (Nat.le_refl _) ha, Text.after?_eq_some_iff.mp ht]

end Cuts

end DiagramText
