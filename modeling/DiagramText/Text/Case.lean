import DiagramText.Text.Blank

/-!
# Letter case in keywords

A keyword is a run of ASCII letters that a diagram may write in any case. Two foldings decide what "any case" means:

- `lowerLetter` lower-cases a letter; besides the ASCII capitals only the Kelvin sign has an ASCII lower case;
- `foldLetter` is simple case folding, under which the long `ſ` is an `s` as well.

`Text.afterFolded?` reads a keyword off the front of a text under either folding (`afterFolded?_eq_some_iff`), and
`Text.startsWithKeyword` asks for a blank or the end of the text behind it.
-/

namespace DiagramText

/-- The lower case of a character as far as it is an ASCII letter: `A` to `Z`, and the Kelvin sign. -/
def lowerLetter (c : Char) : Char :=
  if c = '\u212A' then 'k' else c.toLower

/-- The simple case folding of a character as far as it is an ASCII letter: `A` to `Z`, the Kelvin sign, and the
long `ſ`. -/
def foldLetter (c : Char) : Char :=
  if c = '\u017F' then 's' else lowerLetter c

namespace Text

/-- What follows the keyword `word` in `text`, if the first letters of `text` become `word` under `fold`. -/
def afterFolded? (fold : Char → Char) : Text → Text → Option Text
  | [], text => some text
  | _ :: _, [] => none
  | w :: word, c :: text => if fold c = w then afterFolded? fold word text else none

/-- What follows the keyword `word` in `text`, in any case. -/
def afterKeyword? (word : String) (text : Text) : Option Text :=
  afterFolded? foldLetter word.toList text

/-- Whether `text`, lower-cased, starts with `word`. -/
def startsWithLower (word : String) (text : Text) : Bool :=
  (afterFolded? lowerLetter word.toList text).isSome

/-- Whether `text`, lower-cased, is `word`. -/
def isKeyword (word : String) (text : Text) : Bool :=
  afterFolded? lowerLetter word.toList text = some []

/-- Whether `text`, lower-cased, starts with `word` and then a blank or the end of the text. -/
def startsWithKeyword (word : String) (text : Text) : Bool :=
  match afterFolded? lowerLetter word.toList text with
  | some [] => true
  | some (c :: _) => isBlank c
  | none => false

/-- A text with its ASCII letters lower-cased. -/
def asciiLower (text : Text) : Text :=
  text.map Char.toLower

theorem afterFolded?_eq_some_iff {fold : Char → Char} {word text rest : Text} :
    afterFolded? fold word text = some rest ↔ ∃ read, text = read ++ rest ∧ read.map fold = word := by
  induction word generalizing text with
  | nil => simp [afterFolded?, eq_comm]
  | cons w word ih =>
    cases text with
    | nil => simp [afterFolded?]
    | cons c text =>
      rw [afterFolded?]
      split
      · next h =>
        rw [ih]
        constructor
        · rintro ⟨read, rfl, rfl⟩
          exact ⟨c :: read, rfl, by simp [h]⟩
        · rintro ⟨read, h1, h2⟩
          cases read with
          | nil => simp at h2
          | cons d read =>
            simp only [List.map_cons, List.cons.injEq, List.cons_append] at h1 h2
            exact ⟨read, h1.2, h2.2⟩
      · next h =>
        constructor
        · simp
        · rintro ⟨read, h1, h2⟩
          cases read with
          | nil => simp at h2
          | cons d read =>
            simp only [List.map_cons, List.cons.injEq, List.cons_append] at h1 h2
            exact absurd (h1.1 ▸ h2.1) h

end Text

end DiagramText
