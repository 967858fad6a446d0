import DiagramText.Layout
import DiagramText.Proofs.Layout.SequenceRow

/-!
# The layout of a sequence diagram

A page is put together from two regions, the declarations and the body (`sequencePage_eq_regionsPage`). Each region is
what is left of the lines where those of other kinds are passed over, so it is found again among the rows of the page
(`region_declarations`, `region_body`). Two results follow:

- the layout is a fixed point (`formatSequence_formatSequence`);
- it parts the lines of the text by their kind, in their order, and loses and invents nothing but the header and blank
  lines (`formatSequence_parts_lines`).
-/

namespace DiagramText

open Text

/-! ## Regions -/

/-- The entries whose kind passes a test, with a single blank wherever blanks stand between two of them. -/
def region (holds : LineKind → Bool) (entries : List (Option Text)) : List (Option Text) :=
  squeeze (entries.filter (·.all fun line => holds (LineKind.ofLine .sequence line)))

/-- The row of a declaration. -/
def declarationRow (line : Text) : Row :=
  ⟨1, sequenceText line⟩

/-- The rows of a sequence diagram with given declarations and a given body. -/
def regionsPage (declarations body : List (Option Text)) : Page :=
  some ⟨0, "sequenceDiagram".toList⟩ :: declarations.map (·.map declarationRow) ++
    (if declarations = [] ∨ body = [] then [] else [none]) ++ threaded sequenceRow 1 body

section Regions

variable {holds : LineKind → Bool} {lines : List Text} {D B : List (Option Text)} {line : Text}

theorem sequenceRegion_eq_squeeze (hn : ∀ line ∈ lines, '\n' ∉ line) : sequenceRegion holds lines =
    squeeze (marks (fun line => holds (LineKind.ofLine .sequence line)) lines) := by
  refine congrArg squeeze ?_
  induction lines with
  | nil => rfl
  | cons line lines ih =>
    have hblank : LineKind.ofLine .sequence line = .blank ↔ isFilled line = false :=
      ofLine_eq_blank_iff (hn line List.mem_cons_self)
    rw [marks, List.filterMap_cons, List.filterMap_cons, ih fun l hl => hn l (List.mem_cons_of_mem line hl), ← marks]
    cases hf : isFilled line with
    | false => simp only [hblank.mpr hf, if_true, Bool.false_eq_true, if_false]
    | true =>
      have hk : LineKind.ofLine .sequence line ≠ .blank := fun h => by
        rw [hblank.mp h] at hf
        cases hf
      simp only [hk, if_false, if_true]

theorem region_squeeze (holds : LineKind → Bool) (entries : List (Option Text)) :
    region holds (squeeze entries) = region holds entries :=
  squeeze_filter_squeeze _ entries

theorem squeeze_region (entries : List (Option Text)) : squeeze (region holds entries) = region holds entries :=
  squeeze_squeeze _

/-- Trimmed, the lines of a region are that region of the trimmed lines. -/
theorem map_trim_sequenceRegion (hn : ∀ line ∈ lines, '\n' ∉ line) :
    (sequenceRegion holds lines).map (·.map trim) = region holds (bodies lines) := by
  rw [sequenceRegion_eq_squeeze hn, ← squeeze_map, marks_eq_filter, region, ← map_trim_marks, List.filter_map]
  congr 3
  funext x
  cases x with
  | none => rfl
  | some line => exact congrArg holds (ofLine_trim .sequence line).symm

theorem mem_region {entries : List (Option Text)} (h : some line ∈ region holds entries) :
    some line ∈ entries ∧ holds (LineKind.ofLine .sequence line) = true :=
  List.mem_filter.mp (some_mem_squeeze.mp h)

/-- A change of the lines that keeps their rows keeps the page. -/
theorem regionsPage_map {f : Text → Text} (hD : ∀ line, some line ∈ D → sequenceText (f line) = sequenceText line)
    (hB : ∀ line, some line ∈ B → ∀ depth, sequenceRow depth (f line) = sequenceRow depth line) :
    regionsPage (D.map (·.map f)) (B.map (·.map f)) = regionsPage D B := by
  have htop : (D.map (·.map f)).map (·.map declarationRow) = D.map (·.map declarationRow) := by
    rw [List.map_map]
    refine List.map_congr_left fun x hx => ?_
    cases x with
    | none => rfl
    | some line => simp [declarationRow, hD line hx]
  rw [regionsPage, regionsPage, htop, threaded_map, threaded_congr hB]
  simp only [List.map_eq_nil_iff]

/-- The page of a sequence diagram is put together from the regions of its trimmed lines. -/
theorem sequencePage_eq_regionsPage (hn : ∀ line ∈ lines, '\n' ∉ line) : sequencePage lines =
    regionsPage (region (· = .declaration) (bodies lines)) (region LineKind.isBody (bodies lines)) := by
  rw [← map_trim_sequenceRegion hn, ← map_trim_sequenceRegion hn,
    regionsPage_map (fun line _ => sequenceText_trim line) fun line _ depth => sequenceRow_trim depth line, regionsPage,
    ← sequenceBody_eq_threaded]
  rfl

end Regions

/-! ## The rows of a page -/

/-- Declarations and a body as the layout finds them: squeezed, and each line of its kind. -/
structure AreRegions (declarations body : List (Option Text)) : Prop where
  declarations_squeezed : squeeze declarations = declarations
  body_squeezed : squeeze body = body
  declarations_tight : ∀ line, some line ∈ declarations → IsTight line
  body_tight : ∀ line, some line ∈ body → IsTight line
  declarations_kind : ∀ line, some line ∈ declarations → LineKind.ofLine .sequence line = .declaration
  body_kind : ∀ line, some line ∈ body → (LineKind.ofLine .sequence line).isBody = true

section Rows

variable {D B : List (Option Text)} {text : Text}

theorem areRegions_lines (text : Text) : AreRegions (region (· = .declaration) (bodies (lines text)))
    (region LineKind.isBody (bodies (lines text))) := by
  have htight : ∀ line, some line ∈ bodies (lines text) → IsTight line := fun line hl =>
    isTight_of_mem_bodies (fun _ h => newline_not_mem_lines h) hl
  exact ⟨squeeze_region _, squeeze_region _, fun line hl => htight line (mem_region hl).1,
    fun line hl => htight line (mem_region hl).1, fun line hl => of_decide_eq_true (mem_region hl).2,
    fun line hl => (mem_region hl).2⟩

theorem map_text_declarations (D : List (Option Text)) :
    (D.map (·.map declarationRow)).map (·.map Row.text) = D.map (·.map sequenceText) := by
  rw [List.map_map]
  refine List.map_congr_left fun x _ => ?_
  cases x <;> rfl

theorem map_text_body (B : List (Option Text)) (depth : Nat) :
    (threaded sequenceRow depth B).map (·.map Row.text) = B.map (·.map sequenceText) := by
  have htext : ∀ depth line, (sequenceRow depth line).2.text = sequenceText line := fun _ _ => rfl
  exact map_threaded htext B depth

/-- The texts of the rows of a page. -/
theorem map_text_regionsPage (D B : List (Option Text)) : (regionsPage D B).map (·.map Row.text) =
    some "sequenceDiagram".toList :: (D.map (·.map sequenceText) ++ ((if D = [] ∨ B = [] then [] else [none]) ++
      B.map (·.map sequenceText))) := by
  rw [regionsPage, List.cons_append, List.cons_append, List.map_cons, List.map_append, List.map_append,
    map_text_declarations, map_text_body, List.append_assoc]
  split <;> rfl

theorem isTight_header : IsTight "sequenceDiagram".toList :=
  ⟨⟨by decide, fun _ hc => by cases hc; decide⟩, 's', _, rfl, by decide⟩

/-- The rows of a page are tight. -/
theorem AreRegions.isTight_of_mem (h : AreRegions D B) {row : Row} (hr : some row ∈ regionsPage D B) :
    IsTight row.text := by
  have hmem : some row.text ∈ (regionsPage D B).map (·.map Row.text) := List.mem_map.mpr ⟨some row, hr, rfl⟩
  have hlines : ∀ xs : List (Option Text), (∀ line, some line ∈ xs → IsTight line) →
      ∀ t, some t ∈ xs.map (·.map sequenceText) → IsTight t := by
    intro xs hxs t ht
    obtain ⟨x, hx, hxt⟩ := List.mem_map.mp ht
    obtain ⟨line, rfl, hline⟩ := Option.map_eq_some_iff.mp hxt
    exact hline ▸ isTight_sequenceText (hxs line hx)
  rw [map_text_regionsPage, List.mem_cons, List.mem_append, List.mem_append] at hmem
  rcases hmem with hmem | hmem | hmem | hmem
  · rw [Option.some.inj hmem]
    exact isTight_header
  · exact hlines D h.declarations_tight _ hmem
  · split at hmem
    · cases hmem
    · cases List.mem_singleton.mp hmem
  · exact hlines B h.body_tight _ hmem

/-- Texts of rows whose kinds pass a test are all kept. -/
theorem filter_texts (holds : LineKind → Bool) {xs : List (Option Text)} (ht : ∀ line, some line ∈ xs → IsTight line)
    (hk : ∀ line, some line ∈ xs → holds (LineKind.ofLine .sequence line) = true) :
    (xs.map (·.map sequenceText)).filter (·.all fun line => holds (LineKind.ofLine .sequence line)) =
      xs.map (·.map sequenceText) := by
  refine List.filter_eq_self.mpr fun y hy => ?_
  obtain ⟨x, hx, rfl⟩ := List.mem_map.mp hy
  cases x with
  | none => rfl
  | some line =>
    show holds (LineKind.ofLine .sequence (sequenceText line)) = true
    rw [ofLine_sequenceText (ht line hx)]
    exact hk line hx

/-- Of texts of rows whose kinds fail a test, only the blanks between them are kept. -/
theorem eq_none_of_mem_filter_texts (holds : LineKind → Bool) {xs : List (Option Text)}
    (ht : ∀ line, some line ∈ xs → IsTight line)
    (hk : ∀ line, some line ∈ xs → holds (LineKind.ofLine .sequence line) = false) :
    ∀ y ∈ (xs.map (·.map sequenceText)).filter (·.all fun line => holds (LineKind.ofLine .sequence line)),
      y = none := by
  intro y hy
  obtain ⟨hy, hall⟩ := List.mem_filter.mp hy
  obtain ⟨x, hx, rfl⟩ := List.mem_map.mp hy
  cases x with
  | none => rfl
  | some line =>
    have hline : holds (LineKind.ofLine .sequence (sequenceText line)) = true := hall
    rw [ofLine_sequenceText (ht line hx), hk line hx] at hline
    cases hline

/-- The blank between the regions belongs to neither. -/
theorem eq_none_of_mem_parting {p : Prop} [Decidable p] {y : Option Text} {q : Text → Bool}
    (hy : y ∈ (if p then [] else [none] : List (Option Text)).filter (·.all q)) : y = none := by
  have hy := (List.mem_filter.mp hy).1
  split at hy
  · cases hy
  · exact List.mem_singleton.mp hy

theorem region_header {holds : LineKind → Bool} (hno : holds .header = false) (xs : List (Option Text)) :
    region holds (some "sequenceDiagram".toList :: xs) = region holds xs := by
  have hkind : LineKind.ofLine .sequence "sequenceDiagram".toList = .header := by decide
  have hall : (some "sequenceDiagram".toList).all (fun line => holds (LineKind.ofLine .sequence line)) = false := by
    rw [Option.all_some, hkind, hno]
  rw [region, List.filter_cons, hall]
  rfl

/-- The declarations are found again among the rows of a page. -/
theorem AreRegions.region_declarations (h : AreRegions D B) :
    region (· = .declaration) ((regionsPage D B).map (·.map Row.text)) = D.map (·.map sequenceText) := by
  have hkind : ∀ line, some line ∈ D → decide (LineKind.ofLine .sequence line = .declaration) = true :=
    fun line hl => decide_eq_true (h.declarations_kind line hl)
  have hother : ∀ line, some line ∈ B → decide (LineKind.ofLine .sequence line = .declaration) = false := by
    intro line hl
    refine decide_eq_false fun hk => ?_
    have hbody := h.body_kind line hl
    rw [hk] at hbody
    cases hbody
  have hD := filter_texts (· = .declaration) h.declarations_tight hkind
  have hB := eq_none_of_mem_filter_texts (· = .declaration) h.body_tight hother
  rw [map_text_regionsPage, region_header rfl, region, List.filter_append, List.filter_append, hD,
    squeeze_append_blanks, squeeze_map, h.declarations_squeezed]
  intro y hy
  rcases List.mem_append.mp hy with hy | hy
  · exact eq_none_of_mem_parting hy
  · exact hB y hy

/-- The body is found again among the rows of a page. -/
theorem AreRegions.region_body (h : AreRegions D B) :
    region LineKind.isBody ((regionsPage D B).map (·.map Row.text)) = B.map (·.map sequenceText) := by
  have hother : ∀ line, some line ∈ D → (LineKind.ofLine .sequence line).isBody = false := fun line hl => by
    rw [h.declarations_kind line hl]
    rfl
  have hD := eq_none_of_mem_filter_texts LineKind.isBody h.declarations_tight hother
  have hB := filter_texts LineKind.isBody h.body_tight h.body_kind
  rw [map_text_regionsPage, region_header rfl, region, List.filter_append, List.filter_append, hB,
    squeeze_blanks_append hD, squeeze_blanks_append fun y hy => eq_none_of_mem_parting hy, squeeze_map, h.body_squeezed]

end Rows

/-! ## A second pass -/

section Fixed

variable {D B : List (Option Text)}

/-- The regions that are found among the rows of a page make up the same page. -/
theorem AreRegions.regionsPage_again (h : AreRegions D B) :
    regionsPage (D.map (·.map sequenceText)) (B.map (·.map sequenceText)) = regionsPage D B :=
  regionsPage_map (fun line hl => sequenceText_sequenceText (h.declarations_tight line hl))
    fun line hl depth => sequenceRow_sequenceText (h.body_tight line hl) depth

/-- **The layout of a sequence diagram is a fixed point after one pass.** -/
theorem formatSequence_formatSequence (w : Nat) (text : Text) :
    formatSequence (indentUnit w) (formatSequence (indentUnit w) text) = formatSequence (indentUnit w) text := by
  have hregions := areRegions_lines text
  have hpage : sequencePage (lines text) = regionsPage _ _ :=
    sequencePage_eq_regionsPage fun _ hl => newline_not_mem_lines hl
  generalize region (· = .declaration) (bodies (lines text)) = D at hregions hpage
  generalize region LineKind.isBody (bodies (lines text)) = B at hregions hpage
  have hbodies : squeeze (bodies (lines (formatSequence (indentUnit w) text))) =
      squeeze ((regionsPage D B).map (·.map Row.text)) := by
    rw [formatSequence, hpage, squeeze_bodies_render (isGap_indentUnit w) (newline_not_mem_indentUnit w)
      fun row hr => hregions.isTight_of_mem hr, squeeze_map]
  have hagain : sequencePage (lines (formatSequence (indentUnit w) text)) = sequencePage (lines text) := by
    rw [sequencePage_eq_regionsPage fun _ hl => newline_not_mem_lines hl, ← region_squeeze, hbodies, region_squeeze,
      hregions.region_declarations, ← region_squeeze LineKind.isBody, hbodies, region_squeeze,
      hregions.region_body, hregions.regionsPage_again, hpage]
  rw [formatSequence, hagain, ← formatSequence]

end Fixed

/-! ## Parted lines -/

/-- The lines of a sequence diagram whose kind passes a test. -/
def linesOfKind (holds : LineKind → Bool) (lines : List Text) : List Text :=
  lines.filter fun line => holds (LineKind.ofLine .sequence line)

/-- Rows that make up the region of the lines whose kind passes a test, where `text` is the canonical form of a line:
a row for each line, one blank row wherever blank lines stand between two of them, and none at the start or at the
end. -/
structure IsRegion (holds : LineKind → Bool) (text : Text → Text) (lines rows : List Text) : Prop where
  newline : ∀ row ∈ rows, '\n' ∉ row
  texts : (rows.filter isFilled).map trim = (linesOfKind holds lines).map text
  plain : (rows.filter isFilled).map plain = (linesOfKind holds lines).map plain
  blanks : gaps (marks (fun _ => true) rows) =
    (gaps (marks (fun line => holds (LineKind.ofLine .sequence line)) lines)).map (min · 1)
  first : ∀ row, rows.head? = some row → isFilled row = true
  last : ∀ row, rows.getLast? = some row → isFilled row = true

section Parted

variable {holds : LineKind → Bool} {lines : List Text} {D B : List (Option Text)}

/-- The entries of a region are its lines, trimmed. -/
theorem entries_region (hn : ∀ line ∈ lines, '\n' ∉ line) (hblank : holds .blank = false) :
    (region holds (bodies lines)).filterMap id = (linesOfKind holds lines).map trim := by
  rw [← map_trim_sequenceRegion hn, entries_map, sequenceRegion_eq_squeeze hn, entries_squeeze, entries_marks,
    linesOfKind]
  refine congrArg (List.map trim) (List.filter_congr fun line hl => ?_)
  cases hf : isFilled line with
  | true => rfl
  | false => rw [(ofLine_eq_blank_iff (hn line hl)).mpr hf, hblank, Bool.false_and]

theorem gaps_region (hn : ∀ line ∈ lines, '\n' ∉ line) : gaps (region holds (bodies lines)) =
    (gaps (marks (fun line => holds (LineKind.ofLine .sequence line)) lines)).map (min · 1) := by
  rw [← map_trim_sequenceRegion hn, gaps_map, sequenceRegion_eq_squeeze hn, gaps_squeeze]

/-- The rows of a page with the texts of a region make up that region. -/
theorem isRegion_rows {P : Page} {unit : Text} (hgap : IsGap unit) (hunit : '\n' ∉ unit)
    (hn : ∀ line ∈ lines, '\n' ∉ line) (hblank : holds .blank = false)
    (ht : ∀ row, some row ∈ P → IsTight row.text) (hs : squeeze P = P)
    (hP : P.map (·.map Row.text) = (region holds (bodies lines)).map (·.map sequenceText)) :
    IsRegion holds sequenceText lines (P.rows unit) := by
  have hbodies : bodies (P.rows unit) = (region holds (bodies lines)).map (·.map sequenceText) := by
    rw [bodies_rows hgap ht, hs, hP]
  have htexts : ((P.rows unit).filter isFilled).map trim = (linesOfKind holds lines).map sequenceText := by
    rw [← entries_bodies, hbodies, entries_map, entries_region hn hblank, List.map_map]
    exact List.map_congr_left fun line _ => sequenceText_trim line
  refine ⟨newline_not_mem_rows hunit ht, htexts, ?_, ?_, fun row hr => isFilled_head_rows hgap ht hr,
    fun row hr => isFilled_last_rows hgap ht hr⟩
  · have hplain := congrArg (List.map plain) htexts
    rw [List.map_map, List.map_map] at hplain
    have htrim : plain ∘ trim = plain := funext plain_trim
    rw [htrim] at hplain
    rw [hplain]
    refine List.map_congr_left fun line hl => ?_
    obtain ⟨hl, hk⟩ := List.mem_filter.mp hl
    have hne : trim line ≠ [] := by
      intro hnil
      have hf := isFilled_eq_false_iff.mpr (trim_eq_nil_iff.mp hnil)
      rw [(ofLine_eq_blank_iff (hn line hl)).mpr hf, hblank] at hk
      cases hk
    show plain (sequenceText line) = plain line
    rw [← sequenceText_trim, plain_sequenceText (isTight_trim (hn line hl) hne), plain_trim]
  · rw [gaps_marks, hbodies, gaps_map, gaps_region hn]

theorem region_eq_nil_iff (hn : ∀ line ∈ lines, '\n' ∉ line) (hblank : holds .blank = false) :
    region holds (bodies lines) = [] ↔ linesOfKind holds lines = [] := by
  rw [← List.map_eq_nil_iff (f := trim), ← entries_region hn hblank]
  constructor
  · intro h
    rw [h]
    rfl
  · intro h
    rcases squeeze_eq_nil_or_cons (region holds (bodies lines)) with hs | ⟨line, rest, hs⟩
    · rw [← squeeze_region]
      exact hs
    · rw [squeeze_region] at hs
      rw [hs] at h
      cases h

section Rows

variable (h : AreRegions D B)

include h

theorem AreRegions.squeeze_declarations : squeeze (D.map (·.map declarationRow)) = D.map (·.map declarationRow) := by
  rw [squeeze_map, h.declarations_squeezed]

theorem AreRegions.squeeze_body : squeeze (threaded sequenceRow 1 B) = threaded sequenceRow 1 B := by
  rw [squeeze_threaded, h.body_squeezed]

theorem AreRegions.squeeze_regionsPage : squeeze (regionsPage D B) = regionsPage D B := by
  have hsqueeze := squeeze_parts (⟨0, "sequenceDiagram".toList⟩ : Row) h.squeeze_declarations h.squeeze_body
  simp only [List.map_eq_nil_iff, threaded_eq_nil_iff] at hsqueeze
  rw [regionsPage, List.cons_append, List.cons_append, List.append_assoc, hsqueeze]

/-- The rows of a page are the header, the declarations, a blank row between two regions, and the body. -/
theorem AreRegions.rows_eq (unit : Text) : (regionsPage D B).rows unit = "sequenceDiagram".toList ::
    (Page.rows unit (D.map (·.map declarationRow)) ++
      ((if D = [] ∨ B = [] then [] else [[]]) ++ Page.rows unit (threaded sequenceRow 1 B))) := by
  rw [Page.rows, Page.rows, Page.rows, h.squeeze_declarations, h.squeeze_body, h.squeeze_regionsPage, regionsPage,
    List.cons_append, List.cons_append, List.append_assoc, List.map_cons, List.map_append, List.map_append]
  split <;> rfl

end Rows

/-- The canonical form of a declaration. -/
theorem map_declarations (lines : List Text) : (linesOfKind (· = .declaration) lines).map sequenceText =
    (linesOfKind (· = .declaration) lines).map fun line => normalizeDeclaration (trim line) := by
  refine List.map_congr_left fun line hl => ?_
  rw [sequenceText, of_decide_eq_true (List.mem_filter.mp hl).2]

/-- **The layout of a sequence diagram parts its lines.** The result is the header, the declarations, and the body, all
other lines: each region has its lines in their order and in their canonical form, which changes nothing but blanks and
the case of keywords, with a blank line wherever the text has any between two of them. A blank line parts the regions
where neither is empty. -/
theorem formatSequence_parts_lines (w : Nat) (text : Text) : ∃ top bottom,
    formatSequence (indentUnit w) text = unlines ("sequenceDiagram".toList :: top ++
      (if linesOfKind (· = .declaration) (Text.lines text) = [] ∨ linesOfKind LineKind.isBody (Text.lines text) = []
        then [] else [[]]) ++ bottom) ++ ['\n'] ∧
    IsRegion (· = .declaration) (fun line => normalizeDeclaration (trim line)) (Text.lines text) top ∧
    IsRegion LineKind.isBody sequenceText (Text.lines text) bottom := by
  have hn : ∀ line ∈ Text.lines text, '\n' ∉ line := fun _ hl => newline_not_mem_lines hl
  have hgap := isGap_indentUnit w
  have hunit := newline_not_mem_indentUnit w
  have hregions := areRegions_lines text
  have hD : region (· = .declaration) (bodies (Text.lines text)) = [] ↔
      linesOfKind (· = .declaration) (Text.lines text) = [] := region_eq_nil_iff hn rfl
  have hB : region LineKind.isBody (bodies (Text.lines text)) = [] ↔
      linesOfKind LineKind.isBody (Text.lines text) = [] := region_eq_nil_iff hn rfl
  have htop := isRegion_rows hgap hunit hn rfl
    (fun row hr => hregions.isTight_of_mem
      (List.mem_append_left _ (List.mem_append_left _ (List.mem_cons_of_mem _ hr))))
    hregions.squeeze_declarations (map_text_declarations _)
  have hbottom := isRegion_rows hgap hunit hn rfl
    (fun row hr => hregions.isTight_of_mem (List.mem_append_right _ hr)) hregions.squeeze_body (map_text_body _ 1)
  refine ⟨_, _, ?_, { htop with texts := htop.texts.trans (map_declarations _) }, hbottom⟩
  rw [formatSequence, sequencePage_eq_regionsPage hn, render_eq_unlines, hregions.rows_eq]
  simp only [hD, hB, List.cons_append, List.append_assoc]

end Parted

end DiagramText
