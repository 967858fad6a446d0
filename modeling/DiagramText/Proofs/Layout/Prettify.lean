import DiagramText.CommandLine.Answer
import DiagramText.Proofs.Document
import DiagramText.Proofs.Layout.Flowchart
import DiagramText.Proofs.Layout.Sequence
import DiagramText.Proofs.Session

/-!
# Canonical forms and the ends of lines

A document has a line behind its last newline, and no line of it keeps the carriage return that ends it. Where lines
only end (`Text.endedLines`), there may be one line less, and a carriage return that no newline follows stays. The
dialect and the layout depend on nothing but the lines without the blanks around them, blank lines at the end left aside
(`Dialect.ofLines?_congr`, `Dialect.render_page_congr`). So a text, its lines and the document that shows it all come to
the same canonical form (`prettifyDocument_eq_prettify`). The canonical form of a text is one in the same dialect
(`detect?_prettify`).
-/

namespace DiagramText

open Text CommandLine

/-! ## Lines that end -/

/-- The lines of a text, each ended by a newline, or by a carriage return and a newline. What is behind the last newline
is a line as it stands, unless it is empty. -/
def Text.endedLines (text : Text) : List Text :=
  (pieces '\n' text).dropLast.map withoutReturn ++ (pieces '\n' text).getLast?.toList.filter (· ≠ [])

section EndedLines

variable {text line : Text}

theorem newline_not_mem_endedLines (h : line ∈ endedLines text) : '\n' ∉ line := by
  rcases List.mem_append.mp h with h | h
  · exact newline_not_mem_lines (List.map_subset _ (List.dropLast_subset _) h)
  · exact not_mem_of_mem_pieces (List.mem_of_getLast? (Option.mem_toList.mp (List.mem_filter.mp h).1))

/-- The lines that end have the same bodies, but for blanks at the end. -/
theorem squeeze_bodies_endedLines (text : Text) :
    squeeze (bodies (endedLines text)) = squeeze (bodies (lines text)) := by
  have hpieces := List.dropLast_concat_getLast (pieces_ne_nil '\n' text)
  generalize (pieces '\n' text).dropLast = before at hpieces
  generalize (pieces '\n' text).getLast (pieces_ne_nil '\n' text) = last at hpieces
  have hlines : lines text = before.map withoutReturn ++ [withoutReturn last] := by
    rw [lines, ← hpieces, List.map_append]
    rfl
  have hended : endedLines text = before.map withoutReturn ++ [last].filter (· ≠ []) := by
    rw [endedLines, ← hpieces, List.dropLast_concat, List.getLast?_concat]
    rfl
  have hbodies : ∀ line, bodies [line] = [if trim line = [] then none else some (trim line)] :=
    fun line => bodies_eq_map_trim [line]
  rw [hlines, hended, bodies_append, bodies_append, hbodies, trim_withoutReturn, ← hbodies]
  by_cases hl : last = []
  · rw [hl]
    show squeeze (bodies (before.map withoutReturn) ++ []) = squeeze (bodies (before.map withoutReturn) ++ [none])
    rw [List.append_nil, squeeze_append_blanks (by simp)]
  · simp [hl]

end EndedLines

/-! ## Canonical forms of lines -/

namespace Dialect

/-- The dialect that lines show. -/
def ofLines? (lines : List Text) : Option Dialect :=
  match (lines.map trim).find? (· ≠ []) with
  | none => none
  | some first =>
    let first := asciiLower first
    if (after? "flowchart".toList first).isSome || (after? "graph".toList first).isSome then some flowchart
    else if (after? "sequencediagram".toList first).isSome then some sequence
    else none

/-- The rows of lines in a dialect. -/
def page : Dialect → List Text → Page
  | flowchart => flowchartPage 0
  | sequence => sequencePage

theorem detect?_eq_ofLines? (text : Text) : detect? text = ofLines? (lines text) := rfl

end Dialect

section Lines

variable {xs ys : List Text} {dialect : Dialect} {text : Text}

theorem Dialect.ofLines?_congr (h : squeeze (bodies xs) = squeeze (bodies ys)) :
    Dialect.ofLines? xs = Dialect.ofLines? ys := by
  have hfirst : (xs.map trim).find? (· ≠ []) = (ys.map trim).find? (· ≠ []) := by
    rw [find?_map_trim, find?_map_trim, ← entries_squeeze, h, entries_squeeze]
  rw [ofLines?, ofLines?, hfirst]

/-- Lines with the same bodies are laid out alike. -/
theorem Dialect.render_page_congr (dialect : Dialect) (hx : ∀ line ∈ xs, '\n' ∉ line) (hy : ∀ line ∈ ys, '\n' ∉ line)
    (h : squeeze (bodies xs) = squeeze (bodies ys)) (unit : Text) :
    (dialect.page xs).render unit = (dialect.page ys).render unit := by
  cases dialect with
  | flowchart =>
    rw [page, ← render_squeeze, ← render_squeeze unit (flowchartPage 0 ys), flowchartPage_eq_threaded hx,
      flowchartPage_eq_threaded hy, squeeze_threaded, squeeze_threaded, h]
  | sequence =>
    have hregion : ∀ holds, region holds (bodies xs) = region holds (bodies ys) := fun holds => by
      rw [← region_squeeze, h, region_squeeze]
    rw [page, sequencePage_eq_regionsPage hx, sequencePage_eq_regionsPage hy, hregion, hregion]

theorem prettify_eq_render (h : Dialect.detect? text = some dialect) (unit : Text) :
    prettify unit text = (dialect.page (lines text)).render unit := by
  rw [prettify, h]
  cases dialect <;> rfl

end Lines

/-! ## The dialect of a canonical form -/

section Detection

/-- A formatted sequence diagram is one, since its first line is the header. -/
theorem detect?_formatSequence (w : Nat) (text : Text) :
    Dialect.detect? (formatSequence (indentUnit w) text) = some .sequence := by
  have hregions := areRegions_lines text
  have hpage : sequencePage (lines text) = regionsPage _ _ :=
    sequencePage_eq_regionsPage fun _ hl => newline_not_mem_lines hl
  have hbodies : squeeze (bodies (lines (formatSequence (indentUnit w) text))) =
      (squeeze (sequencePage (lines text))).map (·.map Row.text) :=
    squeeze_bodies_render (isGap_indentUnit w) (newline_not_mem_indentUnit w) fun row hr =>
      hregions.isTight_of_mem (hpage ▸ hr)
  have hfirst : ((bodies (lines (formatSequence (indentUnit w) text))).filterMap id).head? =
      some "sequenceDiagram".toList := by
    rw [← entries_squeeze, hbodies, entries_map, entries_squeeze]
    rfl
  rw [Dialect.detect?, find?_map_trim, hfirst]
  decide

/-- **A text keeps its dialect in canonical form**, and a text without a dialect gets none. -/
theorem detect?_prettify (w : Nat) (text : Text) :
    Dialect.detect? (prettify (indentUnit w) text) = Dialect.detect? text := by
  cases h : Dialect.detect? text with
  | none => simp only [prettify, h]
  | some dialect =>
    cases dialect with
    | flowchart => simp only [prettify, h, detect?_formatFlowchart w h]
    | sequence => simp only [prettify, h, detect?_formatSequence w text]

end Detection

/-! ## The command line and the editor -/

/-- The value of a document after a plan, if there is one. -/
def Document.after (d : Document) : Option EditPlan → Option Text
  | none => some d.value
  | some plan => plan.applyTo? d

section Editor

variable {d : Document} {dialect : Dialect} {text : Text} {w : Nat}

/-- With or without a plan, the document comes to the canonical form of its value. -/
theorem after_prettifyDocument? (hlines : 1 ≤ d.lineCount) (unit : Text) :
    d.after (prettifyDocument? d unit) = some (prettify unit d.value) := by
  unfold prettifyDocument?
  extract_lets pretty
  split
  · next h => exact congrArg some h.symm
  · show d.replace? (.full d) (Snippet.plain pretty).toText = some pretty
    rw [replace?_full hlines, toText_plain]

/-- **The command line and an editor give a text the same canonical form.** The document that shows a text has its
dialect, and the document after the plan of its canonical form is what the command line writes. The lines that end tell
the same dialect and are laid out alike. -/
theorem prettifyDocument_eq_prettify (w : Nat) (h : Dialect.detect? text = some dialect) :
    Dialect.detect? (Document.ofText text).value = some dialect ∧
    (Document.ofText text).after (prettifyDocument? (.ofText text) (indentUnit w)) =
      some (prettify (indentUnit w) text) ∧
    (∀ (fallback : Dialect) (s : Surroundings) (file : Option Text), s.text file = .ok text →
      (Job.format file false).output ⟨w, fallback⟩ s = .ok (prettify (indentUnit w) text)) ∧
    Dialect.ofLines? (endedLines text) = some dialect ∧
    (dialect.page (endedLines text)).render (indentUnit w) = prettify (indentUnit w) text := by
  have hcount : 1 ≤ (Document.ofText text).lineCount := List.length_pos_iff.mpr (lines_ne_nil text)
  have hn : ∀ line ∈ lines text, '\n' ∉ line := fun _ hl => newline_not_mem_lines hl
  have hvalue : squeeze (bodies (lines (Document.ofText text).value)) = squeeze (bodies (lines text)) :=
    congrArg squeeze (bodies_lines_value hn (lines_ne_nil text))
  have hended := squeeze_bodies_endedLines text
  have hdetect : Dialect.detect? (Document.ofText text).value = some dialect := by
    rw [Dialect.detect?_eq_ofLines?, Dialect.ofLines?_congr hvalue, ← Dialect.detect?_eq_ofLines?, h]
  have hpretty : prettify (indentUnit w) (Document.ofText text).value = prettify (indentUnit w) text := by
    rw [prettify_eq_render hdetect, prettify_eq_render h]
    exact dialect.render_page_congr (fun _ hl => newline_not_mem_lines hl) hn hvalue _
  refine ⟨hdetect, ?_, fun fallback s file hs => ?_, ?_, ?_⟩
  · rw [after_prettifyDocument? hcount, hpretty]
  · simp only [Job.output, hs]
    rfl
  · rw [Dialect.ofLines?_congr hended, ← Dialect.detect?_eq_ofLines?, h]
  · rw [prettify_eq_render h]
    exact dialect.render_page_congr (fun _ hl => newline_not_mem_endedLines hl) hn hended _

theorem prettify_carriage_returns :
    (Document.ofText "graph TD\r\na-->b\r\r\n\r".toList).after
      (prettifyDocument? (.ofText "graph TD\r\na-->b\r\r\n\r".toList) (indentUnit 2)) =
        some "graph TD\n  a --> b\n".toList := by
  have hdetect : Dialect.detect? "graph TD\r\na-->b\r\r\n\r".toList = some .flowchart := by decide +kernel
  rw [(prettifyDocument_eq_prettify 2 hdetect).2.1]
  decide +kernel

end Editor

end DiagramText
