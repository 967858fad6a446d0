/-!
# Text

- `Text` is a list of characters, each a Unicode scalar value;
- `Text.pieces sep` cuts a text at every `sep`; joining the pieces gives the text back (`intercalate_pieces`), no piece
  holds the separator (`not_mem_of_mem_pieces`), and these two facts determine the pieces (`pieces_intercalate`);
- the lines of a text (`Text.lines`) are its pieces between newlines, without one carriage return at the end of
  each, and `Text.unlines` joins lines again;
- `Text.after? w s` is what follows `w` in `s` (`after?_eq_some_iff`).
-/

namespace DiagramText

/-- A text is a list of characters. -/
abbrev Text := List Char

namespace Text

/-! ## Pieces and lines -/

/-- The pieces of a text between the occurrences of a separator; there is always at least one. -/
def pieces (sep : Char) : Text → List Text
  | [] => [[]]
  | c :: rest =>
    if c = sep then [] :: pieces sep rest
    else match pieces sep rest with
      | [] => [[c]]
      | p :: ps => (c :: p) :: ps

/-- A piece without the carriage return at its end, if it has one. -/
def withoutReturn (piece : Text) : Text :=
  if piece.getLast? = some '\r' then piece.dropLast else piece

/-- The lines of a text: a newline, or a carriage return and a newline, ends a line, and a text that ends with a
newline has an empty last line. -/
def lines (text : Text) : List Text :=
  (pieces '\n' text).map withoutReturn

/-- Lines joined by newlines. -/
def unlines (lines : List Text) : Text :=
  ['\n'].intercalate lines

theorem pieces_ne_nil (sep : Char) (text : Text) : pieces sep text ≠ [] := by
  cases text with
  | nil => simp [pieces]
  | cons c rest =>
    rw [pieces]
    split
    · simp
    · split <;> simp

/-- Joining the pieces gives the text back. -/
theorem intercalate_pieces (sep : Char) (text : Text) : [sep].intercalate (pieces sep text) = text := by
  induction text with
  | nil => rfl
  | cons c rest ih =>
    rw [pieces]
    obtain ⟨p, ps, h⟩ := List.exists_cons_of_ne_nil (pieces_ne_nil sep rest)
    rw [h] at ih ⊢
    split
    · next hc => subst hc; simp_all [List.intercalate, List.intersperse]
    · cases ps with
      | nil => simp_all [List.intercalate]
      | cons q qs => simp_all [List.intercalate, List.intersperse]

/-- No piece holds the separator. -/
theorem not_mem_of_mem_pieces {sep : Char} {text p : Text} (h : p ∈ pieces sep text) : sep ∉ p := by
  induction text generalizing p with
  | nil => simp_all [pieces]
  | cons c rest ih =>
    rw [pieces] at h
    obtain ⟨q, qs, hq⟩ := List.exists_cons_of_ne_nil (pieces_ne_nil sep rest)
    rw [hq] at h ih
    split at h
    · rcases List.mem_cons.mp h with rfl | h
      · simp
      · exact ih h
    · next hc =>
      rcases List.mem_cons.mp h with rfl | h
      · simp [Ne.symm hc, ih List.mem_cons_self]
      · exact ih (List.mem_cons_of_mem _ h)

/-- A text without the separator is its only piece. -/
theorem pieces_of_not_mem {sep : Char} {text : Text} (h : sep ∉ text) : pieces sep text = [text] := by
  induction text with
  | nil => rfl
  | cons c rest ih =>
    simp only [List.mem_cons, not_or] at h
    rw [pieces, if_neg (Ne.symm h.1), ih h.2]

/-- The separator ends the first piece. -/
theorem pieces_append_cons {sep : Char} {piece : Text} (h : sep ∉ piece) (rest : Text) :
    pieces sep (piece ++ sep :: rest) = piece :: pieces sep rest := by
  induction piece with
  | nil => simp [pieces]
  | cons c piece ih =>
    simp only [List.mem_cons, not_or] at h
    rw [List.cons_append, pieces, if_neg (Ne.symm h.1), ih h.2]

/-- Texts without the separator are the pieces of what they join to. -/
theorem pieces_intercalate {sep : Char} {texts : List Text} (hne : texts ≠ []) (h : ∀ t ∈ texts, sep ∉ t) :
    pieces sep ([sep].intercalate texts) = texts := by
  induction texts with
  | nil => exact absurd rfl hne
  | cons t ts ih =>
    cases ts with
    | nil =>
      rw [show [sep].intercalate [t] = t by simp [List.intercalate]]
      exact pieces_of_not_mem (h t List.mem_cons_self)
    | cons u us =>
      rw [show [sep].intercalate (t :: u :: us) = t ++ sep :: [sep].intercalate (u :: us) by
        simp [List.intercalate, List.intersperse]]
      rw [pieces_append_cons (h t List.mem_cons_self)]
      rw [ih (List.cons_ne_nil u us) fun v hv => h v (List.mem_cons_of_mem t hv)]

/-! ## Literal text -/

/-- What follows `word` in `text`, if `text` starts with it. -/
def after? : Text → Text → Option Text
  | [], text => some text
  | _ :: _, [] => none
  | w :: word, c :: text => if c = w then after? word text else none

theorem after?_eq_some_iff {word text rest : Text} : after? word text = some rest ↔ text = word ++ rest := by
  induction word generalizing text with
  | nil => simp [after?, eq_comm]
  | cons w word ih =>
    cases text with
    | nil => simp [after?]
    | cons c text =>
      rw [after?]
      split
      · next h => simp [ih, h]
      · next h => simp [h]

/-- Whether `word` occurs in `text`. -/
def contains (word : Text) : Text → Bool
  | [] => word.isEmpty
  | c :: rest => (after? word (c :: rest)).isSome || contains word rest

end Text

end DiagramText
