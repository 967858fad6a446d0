import Mathlib.Data.List.Pairwise
import DiagramText.Proofs.Snippet

/-!
# Where stops lie

The stops of a snippet are collected from its first segment to its last, with the length of the text before each
segment. What one segment adds is said once, in `stopsFrom_cases`; from it follow, by induction on the segments,

- which indices are listed (`exists_index_stopsFrom_iff`), that none is listed twice, and that each stop ends before the
  next one starts (`pairwise_stopsFrom`);
- that a stop that is listed stands at its first occurrence (`standsAt_of_mem_stopsFrom`), where its default is in the
  text (`Snippet.StandsAt.extract`).

The list is put in the order of the indices afterwards (`tabStops_locate_defaults`).
-/

namespace DiagramText

/-- Two stops have different indices and do not overlap. -/
def TabStop.AreApart (t t' : TabStop) : Prop :=
  t.index ≠ t'.index ∧ (t.last ≤ t'.first ∨ t'.last ≤ t.first)

theorem TabStop.AreApart.symm {t t' : TabStop} (h : t.AreApart t') : t'.AreApart t :=
  ⟨h.1.symm, h.2.symm⟩

namespace Snippet

/-- A stop stands at its first occurrence in a snippet: no segment before is a stop with its index, and its default
starts where the text of the segments before ends. -/
structure StandsAt (s : Snippet) (t : TabStop) (before behind : List Segment) : Prop where
  segments : s.segments = before ++ .stop t.index t.default :: behind
  earliest : ∀ default, .stop t.index default ∉ before
  first : t.first = (before.flatMap s.resolve).length
  last : t.last = t.first + t.default.length

variable {s : Snippet} {t : TabStop} {offset : Nat} {seen : List Nat} {segment : Segment}
  {before behind rest : List Segment}

/-! ## Collecting stops -/

section Collecting

/-- What a segment adds: a stop with a new index is listed where its default lies, and no other segment adds one. -/
theorem stopsFrom_cases (s : Snippet) (offset : Nat) (seen : List Nat) (segment : Segment) (rest : List Segment) :
    (∃ index default, segment = .stop index default ∧ index ∉ seen ∧
      s.stopsFrom offset seen (segment :: rest) = ⟨index, default, offset, offset + default.length⟩ ::
        s.stopsFrom (offset + (s.resolve segment).length) (index :: seen) rest) ∨
    ((∀ index default, segment = .stop index default → index ∈ seen) ∧
      s.stopsFrom offset seen (segment :: rest) =
        s.stopsFrom (offset + (s.resolve segment).length) seen rest) := by
  cases segment with
  | stop index default =>
    by_cases hseen : index ∈ seen
    · right
      refine ⟨fun i d h => ?_, if_pos hseen⟩
      cases h
      exact hseen
    · exact Or.inl ⟨index, default, rfl, hseen, if_neg hseen⟩
  | _ => exact Or.inr ⟨(fun _ _ h => by cases h), rfl⟩

/-- The indices that are listed are those of stops, without those seen before. -/
theorem exists_index_stopsFrom_iff {i : Nat} : (∃ t ∈ s.stopsFrom offset seen rest, t.index = i) ↔
    i ∉ seen ∧ ∃ default, .stop i default ∈ rest := by
  induction rest generalizing offset seen with
  | nil => exact iff_of_false (by simp [stopsFrom]) (by simp)
  | cons segment rest ih =>
    rcases stopsFrom_cases s offset seen segment rest with ⟨index, default, rfl, hnew, he⟩ | ⟨hold, he⟩
    · rw [he]
      simp only [List.mem_cons, exists_eq_or_imp, ih, not_or, Segment.stop.injEq]
      constructor
      · rintro (rfl | ⟨⟨-, hi⟩, d, hd⟩)
        · exact ⟨hnew, default, Or.inl ⟨rfl, rfl⟩⟩
        · exact ⟨hi, d, Or.inr hd⟩
      · rintro ⟨hi, d, ⟨rfl, -⟩ | hd⟩
        · exact Or.inl rfl
        · by_cases hindex : i = index
          · exact Or.inl hindex.symm
          · exact Or.inr ⟨⟨hindex, hi⟩, d, hd⟩
    · rw [he, ih]
      refine and_congr_right fun hi => exists_congr fun d => ?_
      rw [List.mem_cons]
      refine (or_iff_right ?_).symm
      rintro rfl
      exact hi (hold i d rfl)

theorem le_first_of_mem_stopsFrom (h : t ∈ s.stopsFrom offset seen rest) : offset ≤ t.first := by
  induction rest generalizing offset seen with
  | nil => cases h
  | cons segment rest ih =>
    rcases stopsFrom_cases s offset seen segment rest with ⟨index, default, -, -, he⟩ | ⟨-, he⟩ <;> rw [he] at h
    · rcases List.mem_cons.mp h with rfl | h
      · exact Nat.le_refl _
      · exact Nat.le_of_add_right_le (ih h)
    · exact Nat.le_of_add_right_le (ih h)

/-- No index is listed twice, and each stop ends before the next one starts. -/
theorem pairwise_stopsFrom (s : Snippet) (offset : Nat) (seen : List Nat) (rest : List Segment) :
    (s.stopsFrom offset seen rest).Pairwise fun t t' => t.index ≠ t'.index ∧ t.last ≤ t'.first := by
  induction rest generalizing offset seen with
  | nil => exact List.Pairwise.nil
  | cons segment rest ih =>
    rcases stopsFrom_cases s offset seen segment rest with ⟨index, default, rfl, -, he⟩ | ⟨-, he⟩ <;> rw [he]
    · refine List.Pairwise.cons (fun t ht => ⟨?_, le_first_of_mem_stopsFrom ht⟩) (ih _ _)
      rintro rfl
      exact (exists_index_stopsFrom_iff.mp ⟨t, ht, rfl⟩).1 List.mem_cons_self
    · exact ih _ _

/-- A stop that is listed stands at its first occurrence: the indices of the stops before are seen, and the offset is
the length of their text. -/
theorem standsAt_of_mem_stopsFrom (hsegments : s.segments = before ++ rest)
    (hseen : ∀ i default, .stop i default ∈ before → i ∈ seen)
    (h : t ∈ s.stopsFrom (before.flatMap s.resolve).length seen rest) :
    ∃ before behind, s.StandsAt t before behind := by
  induction rest generalizing before seen with
  | nil => cases h
  | cons segment rest ih =>
    have hnext : s.segments = (before ++ [segment]) ++ rest := by simpa using hsegments
    have hoffset : (before.flatMap s.resolve).length + (s.resolve segment).length =
        ((before ++ [segment]).flatMap s.resolve).length := by simp
    rcases stopsFrom_cases s _ seen segment rest with ⟨index, default, rfl, hnew, he⟩ | ⟨hold, he⟩ <;>
      rw [he, hoffset] at h
    · rcases List.mem_cons.mp h with rfl | h
      · exact ⟨before, rest, hsegments, fun d hd => hnew (hseen index d hd), rfl, rfl⟩
      · refine ih hnext (fun i d hd => ?_) h
        rcases List.mem_append.mp hd with hd | hd
        · exact List.mem_cons_of_mem _ (hseen i d hd)
        · cases List.mem_singleton.mp hd
          exact List.mem_cons_self
    · refine ih hnext (fun i d hd => ?_) h
      rcases List.mem_append.mp hd with hd | hd
      · exact hseen i d hd
      · exact hold i d (List.mem_singleton.mp hd).symm

end Collecting

/-! ## A stop in the text -/

section InText

variable (h : s.StandsAt t before behind)

include h

/-- The first stop with an index has the default of the index. -/
theorem StandsAt.default?_eq : s.default? t.index = some t.default := by
  refine List.findSome?_eq_some_iff.mpr ⟨before, .stop t.index t.default, behind, h.segments, if_pos rfl, ?_⟩
  intro segment hsegment
  cases segment with
  | stop i d =>
    refine if_neg ?_
    rintro rfl
    exact h.earliest d hsegment
  | _ => rfl

theorem StandsAt.toText_eq :
    s.toText = before.flatMap s.resolve ++ (t.default ++ behind.flatMap s.resolve) := by
  rw [toText, h.segments, List.flatMap_append, List.flatMap_cons]
  rfl

theorem StandsAt.last_le : t.last ≤ s.toText.length := by
  rw [h.last, h.first, h.toText_eq, List.length_append, List.length_append]
  omega

/-- The default of a stop is in the text where the stop lies. -/
theorem StandsAt.extract : s.toText.extract t.first t.last = t.default := by
  rw [h.last, h.first, h.toText_eq, List.extract_eq_take_drop, List.drop_left, Nat.add_sub_cancel_left, List.take_left]

end InText

/-! ## Stops in their order -/

section Sorted

theorem mem_tabStops : t ∈ s.tabStops ↔ t ∈ s.stopsFrom 0 [] s.segments :=
  List.mem_mergeSort

theorem exists_standsAt (h : t ∈ s.tabStops) : ∃ before behind, s.StandsAt t before behind :=
  standsAt_of_mem_stopsFrom (List.nil_append _).symm (fun _ _ hd => absurd hd List.not_mem_nil) (mem_tabStops.mp h)

/-- Sorting keeps that no two stops have the same index or overlap. -/
theorem pairwise_tabStops (s : Snippet) : s.tabStops.Pairwise TabStop.AreApart := by
  have hcollected : (s.stopsFrom 0 [] s.segments).Pairwise TabStop.AreApart :=
    (pairwise_stopsFrom s 0 [] s.segments).imp fun ⟨hindex, hle⟩ => ⟨hindex, Or.inl hle⟩
  exact ((List.mergeSort_perm _ _).pairwise_iff TabStop.AreApart.symm).mpr hcollected

theorem pairwise_index_tabStops (s : Snippet) : s.tabStops.Pairwise (·.index < ·.index) := by
  have hsorted : s.tabStops.Pairwise fun t t' => decide (t.index ≤ t'.index) = true :=
    List.pairwise_mergeSort (by simp only [decide_eq_true_iff]; exact fun _ _ _ => Nat.le_trans)
      (by simp only [Bool.or_eq_true, decide_eq_true_iff]; exact fun _ _ => Nat.le_total _ _) _
  exact hsorted.imp₂ (fun t t' hle hne => Nat.lt_of_le_of_ne (of_decide_eq_true hle) hne.1) (pairwise_tabStops s)

/-- **Stops locate their defaults.** The stops are listed with strictly increasing indices, and the indices are those of
the stops among the segments. Each stop stands at the first occurrence of its index, where the text of the snippet has
its default, which is the default of the index. No two stops overlap. -/
theorem tabStops_locate_defaults (s : Snippet) :
    s.tabStops.Pairwise (·.index < ·.index) ∧
    (∀ i, (∃ t ∈ s.tabStops, t.index = i) ↔ ∃ default, .stop i default ∈ s.segments) ∧
    (∀ t ∈ s.tabStops, (∃ before behind, s.StandsAt t before behind) ∧ s.default? t.index = some t.default ∧
      t.last ≤ s.toText.length ∧ s.toText.extract t.first t.last = t.default) ∧
    ∀ t ∈ s.tabStops, ∀ t' ∈ s.tabStops, t ≠ t' → t.last ≤ t'.first ∨ t'.last ≤ t.first := by
  refine ⟨pairwise_index_tabStops s, fun i => ?_, fun t ht => ?_, fun t ht t' ht' hne => ?_⟩
  · simp only [mem_tabStops, exists_index_stopsFrom_iff, List.not_mem_nil, not_false_eq_true, true_and]
  · obtain ⟨before, behind, hat⟩ := exists_standsAt ht
    exact ⟨⟨before, behind, hat⟩, hat.default?_eq, hat.last_le, hat.extract⟩
  · have hsymm : Std.Symm TabStop.AreApart := ⟨fun _ _ h => h.symm⟩
    exact ((pairwise_tabStops s).forall ht ht' hne).2

/-- The mirror before the stop is a character longer than its default, since the capital of `ß` is `SS`. -/
theorem stop_behind_longer_mirror :
    let s := ((empty.mirror 1 .capitalizeFirst).text [' ']).stop 1 "ßa".toList
    ⟨1, "ßa".toList, 4, 6⟩ ∈ s.tabStops ∧ s.toText.extract 4 6 = "ßa".toList := by
  intro s
  have hmem : ⟨1, "ßa".toList, 4, 6⟩ ∈ s.tabStops := mem_tabStops.mpr (by decide +kernel)
  exact ⟨hmem, ((tabStops_locate_defaults s).2.2.1 _ hmem).2.2.2⟩

end Sorted

end Snippet

end DiagramText
