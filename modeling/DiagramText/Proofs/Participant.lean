import DiagramText.Proofs.Anchor
import DiagramText.Proofs.Declaration
import DiagramText.Proofs.Line

/-!
# The last participant

A new participant goes below the last line that starts with the keyword of a role and a blank (`HasRole`,
`lastParticipant?_eq_some_iff`). The layout takes a line for the declaration of a participant only where this blank is a
space and more than blanks stands behind it (`ofLine_eq_declaration_iff`). So the line that is found is the last
declaration exactly where each line that starts with a role has a declaration at it or below it
(`isLastDeclaration_lastParticipant?_iff`).
-/

namespace DiagramText

open Text

variable {line rest : Text} {d : Document} {a : Anchor} {n : Nat} {c : Char}

/-! ## Lines that start with a role -/

/-- Behind its indentation, a line starts with the keyword of a role, in any case, and the blank `c`, with the rest of
the line behind it. -/
def HasRole (line : Text) (c : Char) (rest : Text) : Prop :=
  ∃ gap read, ∃ role : Role, IsGap gap ∧ isBlank c = true ∧ read.map foldLetter = role.keyword.toList ∧
    line = gap ++ (read ++ c :: rest)

section Roles

variable {role : Role} {read text : Text}

theorem startsWithRole_iff : startsWithRole line = true ↔ ∃ c rest, HasRole line c rest := by
  constructor
  · intro h
    unfold startsWithRole at h
    split at h
    · next role c rest hrole =>
      obtain ⟨read, hr, hread⟩ := Role.ofText?_eq_some_iff.mp hrole
      obtain ⟨gap, hg, ht⟩ := exists_gap_trimStart line
      exact ⟨c, rest, gap, read, role, hg, h, hread, hr ▸ ht⟩
    · cases h
  · rintro ⟨c, rest, gap, read, role, hg, hc, hread, rfl⟩
    obtain ⟨hstart, -⟩ := trimStart_indentation_of_first hg (Role.exists_cons hread) (c :: rest)
    rw [startsWithRole, hstart, Role.ofText?_eq_some_iff.mpr ⟨read, rfl, hread⟩]
    exact hc

end Roles

/-! ## Declarations -/

section Declarations

variable {body : Text}

/-- The layout asks for a space behind the keyword of a role. -/
theorem isParticipant_iff : isParticipant body = true ↔
    ∃ read rest, ∃ role : Role, body = read ++ ' ' :: rest ∧ read.map foldLetter = role.keyword.toList := by
  have hspaced : ∀ (role : Role) {word : String}, word.toList = role.keyword.toList ++ [' '] →
      (startsWithLower word body = true ↔
        ∃ read rest, body = read ++ ' ' :: rest ∧ read.map foldLetter = role.keyword.toList) := by
    intro role word hw
    simp only [startsWithLower_iff, hw, map_foldLetter_iff role.letters.2.1 role.letters.2.2]
    constructor
    · rintro ⟨read, rest, rfl, hr⟩
      obtain ⟨first, last, rfl, hfirst, hlast⟩ := List.map_eq_append_iff.mp hr
      obtain ⟨c, more, rfl, hc, hnil⟩ := List.map_eq_cons_iff.mp hlast
      obtain rfl : c = ' ' := eq_space_of_lowerLetter_eq hc
      rw [List.map_eq_nil_iff.mp hnil]
      exact ⟨first, rest, by simp, hfirst⟩
    · rintro ⟨read, rest, rfl, hr⟩
      exact ⟨read ++ [' '], rest, by simp, by rw [List.map_append, hr]; rfl⟩
  rw [isParticipant, Bool.or_eq_true, hspaced .participant rfl, hspaced .actor rfl]
  constructor
  · rintro (⟨read, rest, h⟩ | ⟨read, rest, h⟩)
    · exact ⟨read, rest, .participant, h⟩
    · exact ⟨read, rest, .actor, h⟩
  · rintro ⟨read, rest, role, h⟩
    cases role with
    | participant => exact Or.inl ⟨read, rest, h⟩
    | actor => exact Or.inr ⟨read, rest, h⟩

/-- Only the rule for participants makes a line of a sequence diagram a declaration. -/
theorem ofLine_eq_declaration_iff_isParticipant :
    LineKind.ofLine .sequence line = .declaration ↔ isParticipant (trim line) = true := by
  have hrules : LineKind.ofLine .sequence line =
      if (trim line).isEmpty then .blank
      else if (after? "%%".toList (trim line)).isSome then .comment
      else if isKeyword "sequencediagram" (trim line) then .header
      else if isParticipant (trim line) then .declaration
      else .byRules [.blockEnd, .blockElse, .sequenceBlock, .sequenceDirective, .note] (trim line) := by
    rw [ofLine_eq_byRules, LineRule.ofDialect, LineRule.blank, byRules_test, LineRule.comment, byRules_test,
      LineRule.sequenceHeader, byRules_test, LineRule.participant, byRules_test]
    rfl
  rw [hrules]
  constructor
  · intro h
    have hother : LineKind.byRules [.blockEnd, .blockElse, .sequenceBlock, .sequenceDirective, .note] (trim line) ≠
        .declaration := by
      rw [LineRule.blockEnd, byRules_test, LineRule.blockElse, byRules_test, byRules_block,
        LineRule.sequenceDirective, byRules_test, LineRule.note, byRules_test]
      repeat' split
      all_goals exact LineKind.noConfusion
    repeat' split at h
    all_goals first
      | assumption
      | cases h
      | exact absurd h hother
  · intro h
    obtain ⟨read, rest, role, hbody, hread⟩ := isParticipant_iff.mp h
    obtain ⟨c, read, rfl, -⟩ := Role.exists_cons hread
    have hc : c ≠ '%' := by
      rintro rfl
      cases role <;> cases (List.cons.inj hread).1
    have hcomment : (after? "%%".toList (trim line)).isSome = false := by
      rw [hbody]
      exact congrArg Option.isSome (if_neg hc)
    have hheader : isKeyword "sequencediagram" (trim line) = false := by
      rw [hbody]
      exact isKeyword_eq_false_of_mem (c := ' ') (by simp) (by decide)
    have hne : (trim line).isEmpty = false := by
      rw [hbody]
      rfl
    rw [hne, hcomment, hheader, h]
    rfl

/-- A line declares a participant where the keyword of its role has a space behind it, and more than blanks. -/
theorem ofLine_eq_declaration_iff : LineKind.ofLine .sequence line = .declaration ↔
    ∃ rest, HasRole line ' ' rest ∧ isFilled rest = true := by
  rw [ofLine_eq_declaration_iff_isParticipant, isParticipant_iff]
  constructor
  · rintro ⟨read, rest, role, hbody, hread⟩
    obtain ⟨before, behind, hbefore, hbehind, hline⟩ := exists_gaps_trim line
    refine ⟨rest ++ behind, ⟨before, read, role, hbefore, isBlank_space, hread, ?_⟩, ?_⟩
    · rw [hline, hbody]
      simp
    · -- The last character of a trimmed line is no blank, so that there is one behind the space.
      rw [← Bool.not_eq_false, isFilled_eq_false_iff]
      intro hgap
      have hrest := (isGap_append.mp hgap).1
      have hlast : (trim line).getLast? = some ((' ' :: rest).getLast (List.cons_ne_nil _ _)) := by
        rw [hbody, List.getLast?_append, List.getLast?_eq_some_getLast (List.cons_ne_nil _ _)]
        rfl
      have hblank := last_trimEnd _ _ hlast
      rw [(isSpace_cons isBlank_space hrest).1 _ (List.getLast_mem _)] at hblank
      cases hblank
  · rintro ⟨rest, ⟨gap, read, role, hg, -, hread, rfl⟩, hf⟩
    obtain ⟨hstart, -⟩ := trimStart_indentation_of_first hg (Role.exists_cons hread) (' ' :: rest)
    refine ⟨read, trimEnd rest, role, ?_, hread⟩
    rw [trim, hstart, List.append_cons, trimEnd_append_of_isFilled hf, ← List.append_cons]

end Declarations

/-! ## The last participant of a document -/

/-- An anchor is the last line that declares a participant, with its indentation, and there is none where no line
does. -/
def Document.IsLastDeclaration (d : Document) : Option Anchor → Prop
  | some a => LineKind.ofLine .sequence (d.line a.line) = .declaration ∧ a.indent = indentation (d.line a.line) ∧
      ∀ n, a.line < n → LineKind.ofLine .sequence (d.line n) ≠ .declaration
  | none => ∀ n, LineKind.ofLine .sequence (d.line n) ≠ .declaration

section Last

/-- A declaration starts with a role. -/
theorem startsWithRole_of_declaration (h : LineKind.ofLine .sequence line = .declaration) :
    startsWithRole line = true := by
  obtain ⟨rest, hrole, -⟩ := ofLine_eq_declaration_iff.mp h
  exact startsWithRole_iff.mpr ⟨' ', rest, hrole⟩

/-- **When a new participant goes below the last declaration.** The line that is found is the last one that the layout
takes for the declaration of a participant, and none is found where there is no such line, exactly where each line that
starts with the keyword of a role and a blank has a line at it or below it on which this blank is a space and more than
blanks stands behind it. -/
theorem isLastDeclaration_lastParticipant?_iff (d : Document) : d.IsLastDeclaration d.lastParticipant? ↔
    ∀ n c rest, HasRole (d.line n) c rest →
      ∃ m rest', n ≤ m ∧ HasRole (d.line m) ' ' rest' ∧ isFilled rest' = true := by
  constructor
  · intro h n c rest hrole
    have hstart := startsWithRole_iff.mpr ⟨c, rest, hrole⟩
    cases ha : d.lastParticipant? with
    | none =>
      rw [lastParticipant?_eq_none_iff.mp ha n] at hstart
      cases hstart
    | some a =>
      rw [ha] at h
      obtain ⟨-, -, hno⟩ := lastParticipant?_eq_some_iff.mp ha
      have hle : n ≤ a.line := Nat.le_of_not_lt fun hlt => by
        rw [hno n hlt] at hstart
        cases hstart
      obtain ⟨rest', hdeclared⟩ := ofLine_eq_declaration_iff.mp h.1
      exact ⟨a.line, rest', hle, hdeclared⟩
  · intro h
    -- No line below the one that is found is a declaration, since none starts with a role.
    have hbelow : ∀ n, startsWithRole (d.line n) = false → LineKind.ofLine .sequence (d.line n) ≠ .declaration := by
      intro n hn hk
      rw [startsWithRole_of_declaration hk] at hn
      cases hn
    cases ha : d.lastParticipant? with
    | none => exact fun n => hbelow n (lastParticipant?_eq_none_iff.mp ha n)
    | some a =>
      obtain ⟨hstart, hindent, hno⟩ := lastParticipant?_eq_some_iff.mp ha
      refine ⟨?_, hindent, fun n hn => hbelow n (hno n hn)⟩
      obtain ⟨c, rest, hrole⟩ := startsWithRole_iff.mp hstart
      obtain ⟨m, rest', hle, hdeclared, hf⟩ := h a.line c rest hrole
      have hm : m = a.line := by
        refine Nat.le_antisymm (Nat.le_of_not_lt fun hlt => ?_) hle
        have hrole' := startsWithRole_iff.mpr ⟨' ', rest', hdeclared⟩
        rw [hno m hlt] at hrole'
        cases hrole'
      rw [← hm]
      exact ofLine_eq_declaration_iff.mpr ⟨rest', hdeclared, hf⟩

/-- A tabulator behind the keyword makes a participant for the search, and a statement for the layout. -/
theorem tab_behind_role_is_statement :
    (Document.ofText "sequenceDiagram\nparticipant\tA".toList).lastParticipant? = some ⟨2, []⟩ ∧
    LineKind.ofLine .sequence "participant\tA".toList = .statement ∧
    ¬(Document.ofText "sequenceDiagram\nparticipant\tA".toList).IsLastDeclaration
      (Document.ofText "sequenceDiagram\nparticipant\tA".toList).lastParticipant? := by
  have hfound : (Document.ofText "sequenceDiagram\nparticipant\tA".toList).lastParticipant? = some ⟨2, []⟩ := by
    decide +kernel
  have hkind : LineKind.ofLine .sequence "participant\tA".toList = .statement := by decide +kernel
  refine ⟨hfound, hkind, fun h => ?_⟩
  rw [hfound] at h
  have hline : (Document.ofText "sequenceDiagram\nparticipant\tA".toList).line 2 = "participant\tA".toList := by
    decide +kernel
  have hdeclared := h.1
  rw [hline, hkind] at hdeclared
  cases hdeclared

end Last

end DiagramText
