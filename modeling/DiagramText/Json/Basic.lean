import DiagramText.Text.Natural

/-!
# JSON

- `Json` is a value of the data format;
- `Json.pretty` writes a value over several lines, with two spaces for each level;
- `Json.natural?`, `Json.tag?` and `Json.fields?` read values of the types that documents and plans consist of.
-/

namespace DiagramText

/-- A value of the data format. -/
inductive Json where
  | null
  | bool (value : Bool)
  /-- A number that is written as digits only. -/
  | natural (value : Nat)
  /-- Any other number, as it is written. -/
  | number (written : Text)
  | string (value : Text)
  | list (items : List Json)
  /-- The fields of an object in their order. -/
  | object (fields : List (Text × Json))

namespace Json

/-! ## Writing -/

/-- How a character is written in a string: control characters, the quote and the backslash are escaped. -/
def stringCharacter (c : Char) : Text :=
  if c = '"' ∨ c = '\\' then ['\\', c]
  else if c = '\x08' then ['\\', 'b']
  else if c = '\t' then ['\\', 't']
  else if c = '\n' then ['\\', 'n']
  else if c = '\x0c' then ['\\', 'f']
  else if c = '\r' then ['\\', 'r']
  else if c.toNat < 0x20 then
    ['\\', 'u', '0', '0', Nat.digitChar (c.toNat / 16), Nat.digitChar (c.toNat % 16)]
  else [c]

/-- A string between quotes. -/
def writtenString (value : Text) : Text :=
  '"' :: value.flatMap stringCharacter ++ ['"']

/-- A newline and the indentation of a level. -/
def newline (level : Nat) : Text :=
  '\n' :: List.replicate (2 * level) ' '

/-- Written items between brackets, each on a line of its own one level deeper than the brackets. -/
def bracketed (level : Nat) (left right : Char) (items : List Text) : Text :=
  if items = [] then [left, right]
  else left :: newline (level + 1) ++ (',' :: newline (level + 1)).intercalate items ++ newline level ++ [right]

mutual

/-- A value written over several lines, the first of which stands at a given level. -/
def prettyAt (level : Nat) : Json → Text
  | null => "null".toList
  | bool value => if value then "true".toList else "false".toList
  | natural value => Text.ofNat value
  | number written => written
  | string value => writtenString value
  | list items => bracketed level '[' ']' (prettyItems (level + 1) items)
  | object fields => bracketed level '\x7b' '\x7d' (prettyFields (level + 1) fields)

/-- The items of a list, each written at a given level. -/
def prettyItems (level : Nat) : List Json → List Text
  | [] => []
  | item :: rest => prettyAt level item :: prettyItems level rest

/-- The fields of an object, each written at a given level. -/
def prettyFields (level : Nat) : List (Text × Json) → List Text
  | [] => []
  | (key, value) :: rest => (writtenString key ++ ':' :: ' ' :: prettyAt level value) :: prettyFields level rest

end

/-- A value written over several lines. -/
def pretty (value : Json) : Text :=
  prettyAt 0 value

/-! ## Reading -/

/-- The natural number that a value is, if it is below `2 ^ 64`. -/
def natural? : Json → Option Nat
  | natural n => if n < numberBound then some n else none
  | _ => none

/-- The name that a value stands for: a string, or an object whose only field has the name as its key and holds
`null`. -/
def tag? : Json → Option Text
  | string name => some name
  | object [(name, null)] => some name
  | _ => none

/-- The field of an object with a given key. -/
def field? (key : String) (fields : List (Text × Json)) : Option Json :=
  fields.lookup key.toList

/-- The values of a record with the given keys: the fields of an object, which may have others as well, or a list with
as many items as there are keys. -/
def fields? (keys : List String) : Json → Option (List Json)
  | object fields => keys.mapM (field? · fields)
  | list items => if items.length = keys.length then some items else none
  | _ => none

end Json

end DiagramText
