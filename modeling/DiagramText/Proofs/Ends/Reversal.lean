import DiagramText.Proofs.Ends.Edge
import DiagramText.Proofs.Ends.Message

/-!
# Ends that can change places

The source of an edge can hold characters that its target cannot, and the other way round; and what stands around the
ends may go on with either. So the exchanged ends of an arrow need not be read as they are. When they are is told by the
parts of the line:

- an end of an edge is a name up to the first opener, and a shape (`Ends.isSource_iff`, `Ends.isTarget_iff`);
- the exchanged ends are those of an edge where the target has no `<` in its name and no stroke or dot at the end of it,
  where the source has neither colon nor bar in its name and neither head nor dash at its start, where nothing behind
  goes on with the source, and where no later arrow takes over (`Ends.isEdge_swap_iff`);
- they are those of a message where the line that they make holds no edge, where the start of the source leaves the
  arrow as it is, and where no arrow stands earlier (`Ends.isMessage_swap_iff`).
-/

namespace DiagramText

open Text

variable {c : Char} {node name shape source target behind text : Text} {e : Ends}

/-! ## The name and the shape of an end -/

namespace Ends

/-- The name of an end of an edge, which goes up to its shape. -/
def nameOf (node : Text) : Text :=
  node.takeWhile (!isOpener ·)

/-- The shape of an end of an edge, from its opener on, empty where there is none. -/
def shapeOf (node : Text) : Text :=
  node.dropWhile (!isOpener ·)

end Ends

section Parts

theorem nameOf_append_shapeOf (node : Text) : Ends.nameOf node ++ Ends.shapeOf node = node :=
  List.takeWhile_append_dropWhile

theorem isOpener_of_mem_nameOf (h : c ∈ Ends.nameOf node) : isOpener c = false := by
  simpa using mem_takeWhile h

theorem isOpener_of_head_shapeOf (h : (Ends.shapeOf node).head? = some c) : isOpener c = true := by
  obtain ⟨rest, hrest⟩ := List.head?_eq_some_iff.mp h
  simpa using head_dropWhile hrest

/-- Where a name without openers is followed by a shape, these are the name and the shape. -/
theorem nameOf_shapeOf_append (hname : ∀ c ∈ name, isOpener c = false) (h : Ends.IsLeadingShape shape behind) :
    Ends.nameOf (name ++ shape) = name ∧ Ends.shapeOf (name ++ shape) = shape := by
  have hname' : ∀ c ∈ name, (!isOpener c) = true := fun c hc => by rw [hname c hc]; rfl
  have hshape : ∀ c, shape.head? = some c → (!isOpener c) = false := by
    intro c hc
    rcases h.head with rfl | ⟨d, rest, rfl, hd⟩
    · cases hc
    · cases hc
      rw [hd]
      rfl
  exact ⟨takeWhile_append_of_head hname' hshape, dropWhile_append_of_head hname' hshape⟩

end Parts

/-! ## Edges -/

section Edges

theorem isOpener_of_isSourceCharacter (h : Ends.isSourceCharacter c = true) : isOpener c = false := by
  simp only [Ends.isSourceCharacter, Bool.and_eq_true, Bool.not_eq_true'] at h
  exact h.1.2

theorem isOpener_of_isTargetCharacter (h : Ends.isTargetCharacter c = true) : isOpener c = false := by
  simp only [Ends.isTargetCharacter, Bool.and_eq_true, Bool.not_eq_true'] at h
  exact h.1.1.2

theorem Ends.isSource_iff : Ends.IsSource source behind ↔
    EndsIn isSourceCharacter isSourceEnd (nameOf source) ∧ IsLeadingShape (shapeOf source) behind ∧
      ∀ more rest, shapeOf source ++ behind = more ++ rest → EndsIn isSourceCharacter isSourceEnd more →
        ¬EdgeBehind rest := by
  constructor
  · rintro ⟨name, shape, rfl, hends, hshape, hlongest⟩
    have hopen : ∀ c ∈ name, isOpener c = false :=
      fun c hc => isOpener_of_isSourceCharacter (List.all_eq_true.mp hends.1 c hc)
    obtain ⟨hn, hs⟩ := nameOf_shapeOf_append hopen hshape
    rw [hn, hs]
    exact ⟨hends, hshape, hlongest⟩
  · rintro ⟨hends, hshape, hlongest⟩
    exact ⟨_, _, (nameOf_append_shapeOf source).symm, hends, hshape, hlongest⟩

theorem Ends.isTarget_iff : Ends.IsTarget target behind ↔
    (∃ c, (nameOf target).head? = some c ∧ isTargetStart c = true) ∧
      (∀ c ∈ nameOf target, isTargetCharacter c = true) ∧
      (∀ c, (shapeOf target ++ behind).head? = some c → isTargetCharacter c = false) ∧
      IsLeadingShape (shapeOf target) behind := by
  constructor
  · rintro ⟨c, name, shape, rfl, hc, hname, hend, hshape⟩
    have hall : ∀ d ∈ c :: name, isTargetCharacter d = true :=
      List.forall_mem_cons.mpr ⟨isTargetCharacter_of_start hc, hname⟩
    obtain ⟨hn, hs⟩ := nameOf_shapeOf_append (fun d hd => isOpener_of_isTargetCharacter (hall d hd)) hshape
    rw [hn, hs]
    exact ⟨⟨c, rfl, hc⟩, hall, hend, hshape⟩
  · rintro ⟨⟨c, hc, hstart⟩, hname, hend, hshape⟩
    obtain ⟨name, hcons⟩ := List.head?_eq_some_iff.mp hc
    have htarget : target = c :: name ++ shapeOf target := by rw [← hcons, nameOf_append_shapeOf]
    rw [hcons] at hname
    exact ⟨c, name, _, htarget, hstart, fun d hd => hname d (List.mem_cons_of_mem c hd), hend, hshape⟩

/-- A name without blanks can be that of a source. -/
theorem endsIn_nameOf_iff (hb : ∀ c ∈ Ends.nameOf node, isBlank c = false) :
    EndsIn Ends.isSourceCharacter Ends.isSourceEnd (Ends.nameOf node) ↔
      '<' ∉ Ends.nameOf node ∧ ∃ c, (Ends.nameOf node).getLast? = some c ∧ c ∉ ['-', '=', '.'] := by
  have hsource : ∀ c ∈ Ends.nameOf node, (Ends.isSourceCharacter c = true ↔ c ≠ '<') := by
    intro c hc
    simp [Ends.isSourceCharacter, hb c hc, isOpener_of_mem_nameOf hc]
  have hend : ∀ c ∈ Ends.nameOf node, c ≠ '<' → (Ends.isSourceEnd c = true ↔ c ∉ ['-', '=', '.']) := by
    intro c hc hne
    simp [Ends.isSourceEnd, (hsource c hc).mpr hne, and_assoc]
  have hmem : ∀ {c}, (Ends.nameOf node).getLast? = some c → c ∈ Ends.nameOf node := List.mem_of_getLast?
  rw [EndsIn, List.all_eq_true]
  constructor
  · rintro ⟨hall, c, hc, hq⟩
    have hne : '<' ∉ Ends.nameOf node := fun h => (hsource _ h).mp (hall _ h) rfl
    exact ⟨hne, c, hc, (hend c (hmem hc) fun he => hne (he ▸ hmem hc)).mp hq⟩
  · rintro ⟨hne, c, hc, hq⟩
    have hall : ∀ d ∈ Ends.nameOf node, d ≠ '<' := fun d hd he => hne (he ▸ hd)
    exact ⟨fun d hd => (hsource d hd).mpr (hall d hd), c, hc, (hend c (hmem hc) (hall c (hmem hc))).mpr hq⟩

/-- A name without blanks can be that of a target. -/
theorem targetCharacters_nameOf_iff (hb : ∀ c ∈ Ends.nameOf node, isBlank c = false) :
    ((∃ c, (Ends.nameOf node).head? = some c ∧ Ends.isTargetStart c = true) ∧
        ∀ c ∈ Ends.nameOf node, Ends.isTargetCharacter c = true) ↔
      (∃ c, (Ends.nameOf node).head? = some c ∧ c ∉ ['>', '-']) ∧
        ':' ∉ Ends.nameOf node ∧ '|' ∉ Ends.nameOf node := by
  have htarget : ∀ c ∈ Ends.nameOf node, (Ends.isTargetCharacter c = true ↔ c ≠ ':' ∧ c ≠ '|') := by
    intro c hc
    simp [Ends.isTargetCharacter, hb c hc, isOpener_of_mem_nameOf hc]
  constructor
  · rintro ⟨⟨c, hc, hstart⟩, hall⟩
    simp only [Ends.isTargetStart, Bool.and_eq_true, bne_iff_ne] at hstart
    refine ⟨⟨c, hc, by simp [hstart.1.2, hstart.2]⟩, fun h => ?_, fun h => ?_⟩
    · exact ((htarget _ h).mp (hall _ h)).1 rfl
    · exact ((htarget _ h).mp (hall _ h)).2 rfl
  · rintro ⟨⟨c, hc, hstart⟩, hcolon, hbar⟩
    have hall : ∀ d ∈ Ends.nameOf node, Ends.isTargetCharacter d = true := fun d hd =>
      (htarget d hd).mpr ⟨fun he => hcolon (he ▸ hd), fun he => hbar (he ▸ hd)⟩
    refine ⟨⟨c, hc, ?_⟩, hall⟩
    simp only [List.mem_cons, List.not_mem_nil, or_false, not_or] at hstart
    simp [Ends.isTargetStart, hall c (List.mem_of_head? hc), hstart.1, hstart.2]

end Edges

namespace Ends

/-- The ends of an edge can change places. -/
structure IsReversibleEdge (e : Ends) : Prop where
  before : IsGap e.before
  joint : IsJoint e.between
  names : ∀ c ∈ nameOf e.source ++ nameOf e.target, isBlank c = false
  /-- The name of a source holds no `<`. -/
  target_name : '<' ∉ nameOf e.target
  /-- It ends in neither a stroke nor a dot. -/
  target_end : ∃ c, (nameOf e.target).getLast? = some c ∧ c ∉ ['-', '=', '.']
  target_shape : IsLeadingShape (shapeOf e.target) (e.between ++ (e.source ++ e.behind))
  /-- A source that has no shape goes on up to the last arrow with a target behind it. -/
  next_arrow : shapeOf e.target = [] → ∀ more rest, e.between ++ (e.source ++ e.behind) = more ++ rest →
    EndsIn isSourceCharacter isSourceEnd more → ¬EdgeBehind rest
  /-- The name of a target starts with neither a head nor a dash. -/
  source_start : ∃ c, (nameOf e.source).head? = some c ∧ c ∉ ['>', '-']
  /-- It holds neither a colon nor a bar. -/
  source_name : ':' ∉ nameOf e.source ∧ '|' ∉ nameOf e.source
  source_shape : IsLeadingShape (shapeOf e.source) e.behind
  /-- A target that has no shape takes in whatever can go on with its name. -/
  source_end : shapeOf e.source = [] → ∀ c, e.behind.head? = some c → isTargetCharacter c = false

end Ends

section Edges

/-- No name of a source goes on behind a shape, which starts with an opener. -/
theorem next_arrow_iff {p : Text → Prop} : (∀ more rest, Ends.shapeOf node ++ behind = more ++ rest →
      EndsIn Ends.isSourceCharacter Ends.isSourceEnd more → p rest) ↔
    (Ends.shapeOf node = [] → ∀ more rest, behind = more ++ rest →
      EndsIn Ends.isSourceCharacter Ends.isSourceEnd more → p rest) := by
  cases hs : Ends.shapeOf node with
  | nil => simp
  | cons o shape =>
    have ho : isOpener o = true := isOpener_of_head_shapeOf (by rw [hs]; rfl)
    refine iff_of_true (fun more rest he hends => ?_) (fun h => by cases h)
    obtain ⟨d, more, rfl⟩ := List.exists_cons_of_ne_nil hends.ne_nil
    rw [(List.cons.inj he).1, isOpener_of_isSourceCharacter hends.head] at ho
    cases ho

/-- Nor does the name of a target. -/
theorem target_end_iff : (∀ c, (Ends.shapeOf node ++ behind).head? = some c → Ends.isTargetCharacter c = false) ↔
    (Ends.shapeOf node = [] → ∀ c, behind.head? = some c → Ends.isTargetCharacter c = false) := by
  cases hs : Ends.shapeOf node with
  | nil => simp
  | cons o shape =>
    have ho : isOpener o = true := isOpener_of_head_shapeOf (by rw [hs]; rfl)
    refine iff_of_true (fun c hc => ?_) (fun h => by cases h)
    cases hc
    simp [Ends.isTargetCharacter, ho]

/-- **When the exchanged ends are those of an edge.** -/
theorem isEdge_swap_iff : e.swap.IsEdge ↔ e.IsReversibleEdge := by
  constructor
  · rintro ⟨hbefore, hs, hjoint, ht⟩
    obtain ⟨hends, htshape, hlongest⟩ := Ends.isSource_iff.mp hs
    obtain ⟨hstart, hname, hlast, hsshape⟩ := Ends.isTarget_iff.mp ht
    have hsource : ∀ c ∈ Ends.nameOf e.source, isBlank c = false :=
      fun c hc => isBlank_of_isTargetCharacter (hname c hc)
    have htarget : ∀ c ∈ Ends.nameOf e.target, isBlank c = false :=
      fun c hc => isBlank_of_isSourceCharacter (List.all_eq_true.mp hends.1 c hc)
    obtain ⟨hstart, hname⟩ := (targetCharacters_nameOf_iff hsource).mp ⟨hstart, hname⟩
    obtain ⟨hless, hend⟩ := (endsIn_nameOf_iff htarget).mp hends
    exact ⟨hbefore, hjoint, List.forall_mem_append.mpr ⟨hsource, htarget⟩, hless, hend, htshape,
      next_arrow_iff.mp hlongest, hstart, hname, hsshape, target_end_iff.mp hlast⟩
  · intro h
    obtain ⟨hsource, htarget⟩ := List.forall_mem_append.mp h.names
    obtain ⟨hstart, hname⟩ := (targetCharacters_nameOf_iff hsource).mpr ⟨h.source_start, h.source_name⟩
    have hends := (endsIn_nameOf_iff htarget).mpr ⟨h.target_name, h.target_end⟩
    exact ⟨h.before, Ends.isSource_iff.mpr ⟨hends, h.target_shape, next_arrow_iff.mpr h.next_arrow⟩, h.joint,
      Ends.isTarget_iff.mpr ⟨hstart, hname, target_end_iff.mpr h.source_end, h.source_shape⟩⟩

end Edges

/-! ## Messages -/

namespace Ends

/-- The ends of a message can change places. -/
structure IsReversibleMessage (e : Ends) : Prop where
  before : IsGap e.before
  /-- No edge is read, which would come first. -/
  no_edge : ∀ name rest, e.target ++ (e.between ++ (e.source ++ e.behind)) = name ++ rest →
    EndsIn isSourceCharacter isSourceEnd name → ¬EdgeBehind rest
  ne_nil : e.source ≠ [] ∧ e.target ≠ []
  names : ∀ c ∈ e.source ++ e.target, Message.isNameCharacter c = true
  /-- No head at the start of the source makes the arrow a longer one. -/
  joint : IsMessageJoint e.between e.source
  ends : IsMessageEnd e.behind
  /-- The name of a source goes up to the first arrow with a target behind it. -/
  next_arrow : ∀ less more, e.target = less ++ more → less ≠ [] → more ≠ [] →
    ¬MessageTargetAhead (more ++ (e.between ++ (e.source ++ e.behind)))

end Ends

section Messages

/-- **When the exchanged ends are those of a message.** -/
theorem isMessage_swap_iff (hn : '\n' ∉ e.swap.toText) :
    (∀ f : Ends, f.IsEdge → f.toText ≠ e.swap.toText) ∧ e.swap.IsMessage ↔ e.IsReversibleMessage := by
  have hedge : IsGap e.before → (∃ c t, e.target = c :: t ∧ isBlank c = false) →
      ((∀ f : Ends, f.IsEdge → f.toText ≠ e.swap.toText) ↔ ∀ name rest,
        e.target ++ (e.between ++ (e.source ++ e.behind)) = name ++ rest →
          EndsIn Ends.isSourceCharacter Ends.isSourceEnd name → ¬Ends.EdgeBehind rest) := by
    intro hbefore hfirst
    have htext : e.swap.toText = e.before ++ (e.target ++ (e.between ++ (e.source ++ e.behind))) := by
      simp [Ends.toText, Ends.swap]
    rw [← Ends.ofEdge?_eq_none_iff_forall hn, Ends.ofEdge?_eq_none_iff hn, htext,
      (trimStart_indentation_of_first hbefore hfirst _).1]
  constructor
  · rintro ⟨hno, hbefore, hs, hjoint, ht⟩
    exact ⟨hbefore, (hedge hbefore hs.first).mp hno, ⟨ht.ne_nil, hs.ne_nil⟩,
      List.forall_mem_append.mpr ⟨ht.name, hs.name⟩, hjoint, ht.ends, hs.shortest⟩
  · intro h
    obtain ⟨hsource, htarget⟩ := List.forall_mem_append.mp h.names
    have hs : Ends.IsMessageSource e.target (e.between ++ (e.source ++ e.behind)) :=
      ⟨h.ne_nil.2, htarget, h.next_arrow⟩
    exact ⟨(hedge h.before hs.first).mpr h.no_edge, h.before, hs, h.joint, ⟨h.ne_nil.1, hsource, h.ends⟩⟩

end Messages

/-- The ends of an arrow can change places: the exchanged parts are what is read of the line that they make. -/
def Ends.IsReversible (e : Ends) : Prop :=
  e.IsReversibleEdge ∨ e.IsReversibleMessage

end DiagramText
