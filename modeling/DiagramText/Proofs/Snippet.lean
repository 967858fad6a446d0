import DiagramText.Snippet

/-!
# Texts of snippets

The text of a snippet grows at its end as segments are added, with the default of a stop for each of its mirrors.
`Snippet.textWith` is the text with any values for the mirrors, and `Snippet.default?` is the default of a stop; one
lemma for each way to add a segment says what becomes of the two.
-/

namespace DiagramText

namespace Snippet

/-- The default of the first stop with an index. -/
def default? (s : Snippet) (index : Nat) : Option Text :=
  s.segments.findSome? fun
    | .stop i default => if i = index then some default else none
    | _ => none

/-- The text of a segment with every stop at its default, where mirrors copy given values. -/
def segmentText (values : Nat → Text) : Segment → Text
  | .text t => t
  | .stop _ default => default
  | .mirror index transform => transform.apply (values index)
  | .final => []

/-- The text of a snippet with every stop at its default, where mirrors copy given values. -/
def textWith (s : Snippet) (values : Nat → Text) : Text :=
  s.segments.flatMap (segmentText values)

variable (s : Snippet) (values : Nat → Text) (index : Nat)

theorem toText_eq_textWith : s.toText = s.textWith fun index => (s.default? index).getD [] := by
  refine congrArg (s.segments.flatMap ·) (funext fun segment => ?_)
  cases segment <;> rfl

/-! ## Adding segments -/

section Building

theorem flatMap_appendText (added : Text) (segments : List Segment) :
    (appendText added segments).flatMap (segmentText values) = segments.flatMap (segmentText values) ++ added := by
  induction segments with
  | nil => simp [appendText, segmentText]
  | cons segment rest ih =>
    unfold appendText
    split
    · simp_all
    · simp_all [segmentText]
    · simp_all

theorem findSome?_appendText {α : Type} (f : Segment → Option α) (hf : ∀ t, f (.text t) = none) (added : Text)
    (segments : List Segment) : (appendText added segments).findSome? f = segments.findSome? f := by
  induction segments with
  | nil => simp [appendText, hf]
  | cons segment rest ih =>
    unfold appendText
    split
    · simp_all
    · simp_all
    · simp_all [List.findSome?_cons]

@[simp] theorem textWith_text (added : Text) : (s.text added).textWith values = s.textWith values ++ added := by
  unfold text
  split
  · next h => rw [h, List.append_nil]
  · exact flatMap_appendText values added s.segments

@[simp] theorem textWith_plain (added : Text) : (plain added).textWith values = added :=
  textWith_text empty values added

@[simp] theorem textWith_stop (i : Nat) (default : Text) :
    (s.stop i default).textWith values = s.textWith values ++ default := by
  simp [textWith, stop, segmentText]

@[simp] theorem textWith_mirror (i : Nat) (transform : Transform) :
    (s.mirror i transform).textWith values = s.textWith values ++ transform.apply (values i) := by
  simp [textWith, mirror, segmentText]

@[simp] theorem textWith_finish : s.finish.textWith values = s.textWith values := by
  simp [textWith, finish, segmentText]

@[simp] theorem default?_text (added : Text) : (s.text added).default? index = s.default? index := by
  unfold text
  split
  · rfl
  · exact findSome?_appendText _ (fun _ => rfl) added s.segments

@[simp] theorem default?_plain (added : Text) : (plain added).default? index = none :=
  default?_text empty index added

/-- A stop counts where no stop before it has its index. -/
@[simp] theorem default?_stop (i : Nat) (default : Text) : (s.stop i default).default? index =
    (s.default? index).or (if i = index then some default else none) := by
  rw [default?, stop, List.findSome?_append]
  by_cases h : i = index <;> simp [default?, h]

@[simp] theorem default?_mirror (i : Nat) (transform : Transform) :
    (s.mirror i transform).default? index = s.default? index := by
  rw [default?, mirror, List.findSome?_append]
  exact Option.or_none

@[simp] theorem default?_finish : s.finish.default? index = s.default? index := by
  rw [default?, finish, List.findSome?_append]
  exact Option.or_none

/-- A text goes to the end, whatever it follows. -/
theorem toText_text (added : Text) : (s.text added).toText = s.toText ++ added := by
  simp [toText_eq_textWith]

end Building

end Snippet

end DiagramText
