import DiagramText.Text.Natural
import DiagramText.Text.WordCharacter

/-!
# Fresh nodes

A new node without a name gets the first of `temp1`, `temp2`, … whose number no word of the text uses up. Words are
maximal runs of word characters (`Text.words`), and a word uses up the number that its ASCII digits write behind
`temp`, leading zeros allowed.
-/

namespace DiagramText

namespace Text

/-- The words of a text, where `word` is the part of a word already read, in reverse. -/
def wordsFrom (word : Text) : Text → List Text
  | [] => if word = [] then [] else [word.reverse]
  | c :: rest =>
    if isWordCharacter c then wordsFrom (c :: word) rest
    else if word = [] then wordsFrom [] rest
    else word.reverse :: wordsFrom [] rest

/-- The maximal runs of word characters in a text, in their order. -/
def words (text : Text) : List Text :=
  wordsFrom [] text

end Text

/-- The number that ASCII digits write. -/
def digitsValue? (digits : Text) : Option Nat :=
  if digits ≠ [] ∧ digits.all Char.isDigit then
    some (digits.foldl (fun n c => n * 10 + (c.toNat - '0'.toNat)) 0)
  else none

/-- The number of a generated name. -/
def nodeNumber? (word : Text) : Option Nat :=
  (Text.after? "temp".toList word).bind digitsValue?

/-- The numbers of generated names among the words of a text. -/
def usedNumbers (text : Text) : List Nat :=
  (Text.words text).filterMap nodeNumber?

/-- The least number from `n` on that is not used, among the next `fuel` ones. -/
def leastFree (used : List Nat) (n : Nat) : Nat → Nat
  | 0 => n
  | fuel + 1 => if n ∈ used then leastFree used (n + 1) fuel else n

/-- The first generated name whose number is not used in a text. -/
def freshNode (text : Text) : Text :=
  let used := usedNumbers text
  "temp".toList ++ Text.ofNat (leastFree used 1 used.length)

end DiagramText
