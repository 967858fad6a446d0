import DiagramText.Proofs.Anchor
import DiagramText.Proofs.Edge.Label
import DiagramText.Proofs.Line.Shaped

/-!
# Edges from a shaped node

The arrows of an edge statement are not the ones by which a line is told from the declaration of a node. Of some arrows no
part is looked for (`Edge.IsUnmarked`, `hasArrow_arrow_iff`): an edge with such an arrow behind a shaped node is taken for
the declaration of this node, and a new node may be put behind it (`ofLine_shapedSource_iff`).
-/

namespace DiagramText

open Text

variable {form : ArrowForm} {arrow a b label : Text} {e : Edge}

/-! ## Arrows that are not looked for -/

/-- An arrow in which none of the arrows occurs that tell an edge from a node: two dashes without a head, the arrows that
end in a circle, a thick one with its head in front, and any line of equals signs. -/
def Edge.IsUnmarked (arrow : Text) : Prop :=
  arrow ∈ ["--".toList, "--o".toList, "o--o".toList, "<==".toList] ∨ ∃ n, arrow = List.replicate (n + 2) '='

section Unmarked

theorem Edge.not_isUnmarked_of_head (h : '>' ∈ arrow) : ¬Edge.IsUnmarked arrow := by
  have hall : ∀ arrow ∈ ["--".toList, "--o".toList, "o--o".toList, "<==".toList], '>' ∉ arrow := by decide
  rintro (hm | ⟨n, rfl⟩)
  · exact hall arrow hm h
  · cases List.eq_of_mem_replicate h

/-- A headed arrow is looked for, also behind a tail. -/
theorem hasArrow_headed {stroke : Char} (hs : stroke = '-' ∨ stroke = '=') (tail : Text) (n : Nat) :
    LineRule.hasArrow (tail ++ headed stroke n) = true := by
  refine hasArrow_iff.mpr ⟨headed stroke 0, by rcases hs with rfl | rfl <;> decide, ?_⟩
  rw [headed_append stroke n, ← List.append_assoc]
  exact (List.suffix_append _ _).isInfix

/-- No line of equals signs alone is looked for. -/
theorem hasArrow_replicate (n : Nat) : LineRule.hasArrow (List.replicate n '=') = false := by
  have hall : ∀ token ∈ LineRule.arrowTokens, (token.any fun c => c != '=') = true := by decide
  rw [Bool.eq_false_iff, Ne, hasArrow_iff]
  rintro ⟨token, ht, h⟩
  obtain ⟨c, hc, hne⟩ := List.any_eq_true.mp (hall token ht)
  exact bne_iff_ne.mp hne (List.eq_of_mem_replicate (h.subset hc))

/-- Of the lines of dashes alone the one of two dashes is not looked for. -/
theorem hasArrow_dashes_iff (n : Nat) : LineRule.hasArrow (List.replicate (n + 2) '-') = true ↔
    ¬Edge.IsUnmarked (List.replicate (n + 2) '-') := by
  cases n with
  | zero => exact iff_of_false (by decide) (not_not_intro (Or.inl (by decide)))
  | succ n =>
    refine iff_of_true (hasArrow_iff.mpr ⟨"---".toList, by decide, List.replicate n '-', [], ?_⟩) ?_
    · rw [List.append_nil, show "---".toList = List.replicate 3 '-' from rfl, List.replicate_append_replicate]
    · rintro (hm | ⟨k, hk⟩)
      · simp [List.replicate_succ] at hm
      · simp [List.replicate_succ] at hk

/-- Of the arrows that are single words the ones listed are not looked for. -/
theorem hasArrow_word_iff {word : Text} (hf : ArrowForm.exact word ∈ Edge.arrows) :
    LineRule.hasArrow word = true ↔ ¬Edge.IsUnmarked word := by
  have hall : ∀ word ∈ ["--o", "--x", "o--o", "x--x", "-.->", ".->", "<=="].map String.toList,
      (word.any fun c => c != '=') = true ∧ (LineRule.hasArrow word = true ↔
        word ∉ ["--".toList, "--o".toList, "o--o".toList, "<==".toList]) := by
    decide
  obtain ⟨hany, hiff⟩ := hall word (by simpa [Edge.arrows] using hf)
  obtain ⟨c, hc, hne⟩ := List.any_eq_true.mp hany
  refine hiff.trans (not_congr (or_iff_left ?_)).symm
  rintro ⟨n, hn⟩
  exact bne_iff_ne.mp hne (List.eq_of_mem_replicate (hn ▸ hc))

/-- **The arrows that are looked for.** -/
theorem hasArrow_arrow_iff (hf : form ∈ Edge.arrows) (hd : form.Draws arrow) :
    LineRule.hasArrow arrow = true ↔ ¬Edge.IsUnmarked arrow := by
  cases form with
  | exact word =>
    rw [show arrow = word from hd]
    exact hasArrow_word_iff hf
  | strokes tail stroke head =>
    obtain ⟨n, rfl⟩ := hd
    simp only [Edge.arrows, List.mem_cons, List.not_mem_nil, or_false, false_or, reduceCtorEq,
      ArrowForm.strokes.injEq] at hf
    rcases hf with ⟨rfl, rfl, rfl⟩ | ⟨rfl, rfl, rfl⟩ | ⟨rfl, rfl, rfl⟩ | ⟨rfl, rfl, rfl⟩ | ⟨rfl, rfl, rfl⟩
    · exact iff_of_true (hasArrow_headed (Or.inl rfl) [] n) (Edge.not_isUnmarked_of_head (by simp))
    · exact iff_of_true (hasArrow_headed (Or.inl rfl) ['<'] n) (Edge.not_isUnmarked_of_head (by simp))
    · simpa using hasArrow_dashes_iff n
    · exact iff_of_true (hasArrow_headed (Or.inr rfl) [] n) (Edge.not_isUnmarked_of_head (by simp))
    · refine iff_of_false ?_ (not_not_intro (Or.inr ⟨n, by simp⟩))
      simpa using hasArrow_replicate (n + 2)

end Unmarked

/-! ## The line -/

section Line

theorem Edge.exists_draws {line : Text} (he : Edge.ofText? line = some e) :
    ∃ form ∈ Edge.arrows, form.Draws e.arrow := by
  obtain ⟨name, shape, rest, -, -, hlongest⟩ := Edge.ofText?_eq_some he
  obtain ⟨text, -, hread⟩ := shapeAndTarget?_eq_append hlongest.eq_some
  obtain ⟨form, hf, -, hd, -⟩ := arrowAndTarget?_eq_some hread
  exact ⟨form, hf, hd⟩

/-- Behind a shaped node without strokes, and in front of an identifier, an arrow decides whether the line is a statement
or declares the node. -/
theorem ofLine_shapedSource (ha : isIdentifier a = true) (hb : isIdentifier b = true)
    (hl : '\n' ∉ label ∧ '-' ∉ label ∧ '=' ∉ label) (hf : form ∈ Edge.arrows) (hd : form.Draws arrow) :
    IsTight (a ++ bracketed label ++ ' ' :: arrow ++ ' ' :: b) ∧
      LineKind.ofLine .flowchart (a ++ bracketed label ++ ' ' :: arrow ++ ' ' :: b) =
        if LineRule.hasArrow arrow then .statement else .declaration := by
  have htext : a ++ bracketed label ++ ' ' :: arrow ++ ' ' :: b =
      a ++ '[' :: (label ++ ']' :: ' ' :: (arrow ++ ' ' :: b)) := by
    simp [bracketed]
  have hno : ∀ m, m ∉ label → isIdentifierPart m = false → m ≠ '[' → m ≠ ']' → m ∉ a ++ bracketed label := by
    intro m hm hpart h1 h2
    simp only [bracketed, List.mem_append, List.mem_cons, List.not_mem_nil, or_false, not_or]
    exact ⟨not_mem_of_isIdentifier ha hpart, h1, hm, h2⟩
  have htight : IsTight (a ++ bracketed label ++ ' ' :: arrow ++ ' ' :: b) := by
    obtain ⟨c, rest, hc, hblank⟩ := (isTight_of_isIdentifier ha).first
    refine ⟨?_, c, rest ++ bracketed label ++ ' ' :: arrow ++ ' ' :: b, by rw [hc]; simp, hblank⟩
    have htail := (isTight_of_isIdentifier hb).toIsTail.append (a := a ++ bracketed label ++ ' ' :: arrow ++ [' '])
      (isTight_of_isIdentifier hb).ne_nil ?_
    · simpa using htail
    · have harrow : '\n' ∉ arrow := fun hm => by cases (hd.letter hf hm).1
      have hnode := hno '\n' hl.1 (by decide) (by decide) (by decide)
      simp only [List.mem_append, List.mem_cons, List.not_mem_nil, or_false, not_or] at hnode ⊢
      exact ⟨⟨hnode, by decide, harrow⟩, by decide⟩
  refine ⟨htight, ?_⟩
  have harrow : LineRule.hasArrow (a ++ bracketed label ++ ' ' :: arrow ++ ' ' :: b) = LineRule.hasArrow arrow := by
    have hnode : LineRule.hasArrow (a ++ bracketed label) = false :=
      hasArrow_eq_false (hno '-' hl.2.1 (by decide) (by decide) (by decide))
        (hno '=' hl.2.2 (by decide) (by decide) (by decide))
    have hb' : LineRule.hasArrow b = false :=
      hasArrow_eq_false (not_mem_of_isIdentifier hb (by decide)) (not_mem_of_isIdentifier hb (by decide))
    rw [Bool.eq_iff_iff, List.append_assoc, List.cons_append, hasArrow_append_cons isBlank_space,
      hasArrow_append_cons isBlank_space, hnode, hb']
    simp
  rw [← harrow, htext] at *
  exact ofLine_shaped ha (by decide) htight

/-- **When an edge from a shaped node is a statement.** The line is one, and is never found as the last node of a piece
of a document, exactly where its arrow is looked for. -/
theorem ofLine_shapedSource_iff (ha : isIdentifier a = true) (hb : isIdentifier b = true)
    (hl : ∀ c ∈ label, isOpener c = false ∧ isCloser c = false ∧ c ∉ ['\n', '<', '-', '=', '.', '>'])
    (he : Edge.ofText? (a ++ bracketed label ++ ' ' :: e.arrow ++ ' ' :: b) = some e) :
    (LineKind.ofLine .flowchart (a ++ bracketed label ++ ' ' :: e.arrow ++ ' ' :: b) = .statement ↔
      ¬Edge.IsUnmarked e.arrow) ∧
    ((∀ (d : Document) (first last : Nat) (anchor : Anchor), d.lastNode? first last = some anchor →
        trim (d.line anchor.line) ≠ a ++ bracketed label ++ ' ' :: e.arrow ++ ' ' :: b) ↔
      ¬Edge.IsUnmarked e.arrow) := by
  obtain ⟨form, hf, hd⟩ := Edge.exists_draws he
  have hstrokes : ['\n', '-', '='] ⊆ ['\n', '<', '-', '=', '.', '>'] := by decide
  have hno : ∀ m ∈ ['\n', '-', '='], m ∉ label := fun m hm hmem => (hl m hmem).2.2 (hstrokes hm)
  obtain ⟨htight, hkind⟩ := ofLine_shapedSource ha hb
    ⟨hno '\n' (by decide), hno '-' (by decide), hno '=' (by decide)⟩ hf hd
  generalize a ++ bracketed label ++ ' ' :: e.arrow ++ ' ' :: b = line at htight hkind
  rw [← hasArrow_arrow_iff hf hd]
  cases harrow : LineRule.hasArrow e.arrow with
  | true =>
    rw [harrow, if_pos rfl] at hkind
    refine ⟨iff_of_true hkind rfl, iff_of_true (fun d first last anchor hanchor htrim => ?_) rfl⟩
    obtain ⟨-, -, -, -, hdeclared, -⟩ := lastNode?_eq_some hanchor
    rw [← ofLine_trim, htrim, hkind] at hdeclared
    cases hdeclared
  | false =>
    rw [harrow, if_neg Bool.false_ne_true] at hkind
    refine ⟨iff_of_false (by rw [hkind]; exact fun h => by cases h) Bool.false_ne_true,
      iff_of_false (fun hnever => ?_) Bool.false_ne_true⟩
    -- The document of the line alone has it for its last node.
    refine hnever ⟨[line]⟩ 1 1 ⟨1, indentation line⟩ ?_ htight.trim_eq
    rw [lastNode?_eq (Nat.le_refl 1) (Nat.le_refl 1) (by decide)]
    simp [lastNodeIn, Document.line, hkind]

/-- A dotted arrow behind a shaped node is looked for. -/
theorem dotted_edge_is_statement :
    Edge.ofText? "cache[Hot store] -.-> db".toList =
        some ⟨"cache[Hot store]".toList, "-.->".toList, none, "db".toList⟩ ∧
      LineKind.ofLine .flowchart "cache[Hot store] -.-> db".toList = .statement := by
  have hread : Edge.ofText? "cache[Hot store] -.-> db".toList =
      some ⟨"cache[Hot store]".toList, "-.->".toList, none, "db".toList⟩ := by
    decide +kernel
  have hlabel : ("Hot store".toList.all fun c => !isOpener c && !isCloser c &&
      !(['\n', '<', '-', '=', '.', '>'].contains c)) = true := by
    decide
  have hcache : isIdentifier "cache".toList = true := by decide
  have hdb : isIdentifier "db".toList = true := by decide
  have hplain : ∀ c ∈ "Hot store".toList, isOpener c = false ∧ isCloser c = false ∧
      c ∉ ['\n', '<', '-', '=', '.', '>'] := fun c hc => by
    simpa [and_assoc] using List.all_eq_true.mp hlabel c hc
  have hkind := ofLine_shapedSource_iff (e := ⟨"cache[Hot store]".toList, "-.->".toList, none, "db".toList⟩) hcache hdb
    hplain hread
  exact ⟨hread, hkind.1.mpr (Edge.not_isUnmarked_of_head (by decide))⟩

/-- An edge that ends in a circle is taken for the declaration of its source, and found as a node. -/
theorem circle_edge_is_declaration :
    Edge.ofText? "a[Start] --o b".toList = some ⟨"a[Start]".toList, "--o".toList, none, "b".toList⟩ ∧
      LineKind.ofLine .flowchart "a[Start] --o b".toList = .declaration ∧
      (Document.ofText "flowchart LR\n  a[Start] --o b\n".toList).lastNode? 2 2 = some ⟨2, "  ".toList⟩ := by
  decide +kernel

end Line

end DiagramText
