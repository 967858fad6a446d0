import DiagramText.Text.Basic

/-!
# Control sequences

A terminal reads some characters as commands: control characters, and sequences that the escape character begins.
`ControlState` says where in a sequence the terminal stands.

- `Text.rendered` puts a text between the sequences that begin and end a rendition;
- `Text.withoutControls` is what is left of a text for a reader that is no terminal. It holds plain characters only
  (`isPlain_of_mem_withoutControls`) and keeps a text of plain characters as it is (`withoutControls_of_isPlain`), so
  that nothing is left to do for a second time (`withoutControls_withoutControls`).
-/

namespace DiagramText

/-! ## Characters -/

/-- The control characters that lay out a text. -/
def isLayoutControl (c : Char) : Bool :=
  c = '\t' || c = '\n' || c = '\x0c' || c = '\r'

/-- Whether a character is a part of the text where it stands outside control sequences. -/
def isPlain (c : Char) : Bool :=
  isLayoutControl c || ' ' ≤ c && c ≠ '\x7f'

/-- The characters `0x20` to `0x2F`, which stand inside sequences. -/
def isIntermediate (c : Char) : Bool :=
  ' ' ≤ c && c ≤ '/'

/-- The characters `0x30` to `0x3F`, which write the parameters of sequences. -/
def isParameter (c : Char) : Bool :=
  '0' ≤ c && c ≤ '?'

/-- The characters `0x40` to `0x7E`, which end sequences. -/
def isFinal (c : Char) : Bool :=
  '@' ≤ c && c ≤ '~'

/-- Whether the encoding of a character holds the byte `0x9C`, which ends strings. -/
def holdsTerminator (c : Char) : Bool :=
  (String.utf8EncodeChar c).contains 0x9C

/-! ## States -/

/-- Where a terminal stands in a control sequence. -/
inductive ControlState where
  /-- Outside control sequences. -/
  | ground
  /-- Behind the escape character. -/
  | escape
  /-- Behind the escape character and intermediate characters. -/
  | escapeIntermediate
  /-- In a sequence that `ESC [` begins. -/
  | controlSequence
  /-- Behind `ESC P`, which begins a string for the device. -/
  | deviceEntry
  /-- In the parameters of a string for the device. -/
  | deviceParameters
  /-- In the intermediate characters of a string for the device. -/
  | deviceIntermediate
  /-- In a string that no terminal shows. -/
  | controlString
  /-- In a command for the operating system, a string that `ESC ]` begins. -/
  | commandString
  deriving DecidableEq

namespace ControlState

/-- The state behind a character that is not a part of the text. -/
def next (s : ControlState) (c : Char) : ControlState :=
  if c = '\x1b' then escape
  else if c = '\x18' ∨ c = '\x1a' then ground
  else match s with
    | ground => ground
    | escape =>
      if isIntermediate c then escapeIntermediate
      else if c = '[' then controlSequence
      else if c = 'P' then deviceEntry
      else if c = ']' then commandString
      else if c = 'X' ∨ c = '^' ∨ c = '_' then controlString
      else if isParameter c ∨ isFinal c then ground
      else escape
    | escapeIntermediate => if isParameter c ∨ isFinal c then ground else escapeIntermediate
    | controlSequence => if isFinal c then ground else controlSequence
    | deviceEntry =>
      if isIntermediate c then deviceIntermediate
      else if isParameter c then deviceParameters
      else if isFinal c then controlString
      else deviceEntry
    | deviceParameters =>
      if isIntermediate c then deviceIntermediate
      else if '<' ≤ c ∧ c ≤ '?' ∨ isFinal c then controlString
      else deviceParameters
    | deviceIntermediate => if isParameter c ∨ isFinal c then controlString else deviceIntermediate
    | controlString => if holdsTerminator c then ground else controlString
    | commandString => if c = '\x07' then ground else commandString

/-- Whether a plain character is a part of the text in a state. Layout goes on inside short sequences, but not inside
strings. -/
def shows (s : ControlState) (c : Char) : Bool :=
  match s with
  | ground => true
  | escape | escapeIntermediate | controlSequence => isLayoutControl c
  | deviceEntry | deviceParameters | deviceIntermediate | controlString | commandString => false

/-- What is left of a text that begins in a state. The plain characters behind one that is a part of the text are parts
of it too (`shown`), even if that one stands inside a sequence; the sequence goes on behind them, unless one of them is
outside ASCII. -/
def left (s : ControlState) (shown : Bool) : Text → Text
  | [] => []
  | c :: rest =>
    if isPlain c && (shown || s.shows c) then c :: left (if c ≤ '\x7f' then s else ground) true rest
    else left (s.next c) false rest

theorem isPlain_of_mem_left {s : ControlState} {shown : Bool} {text : Text} {c : Char} (h : c ∈ s.left shown text) :
    isPlain c = true := by
  induction text generalizing s shown with
  | nil => simp [left] at h
  | cons d rest ih =>
    rw [left] at h
    split at h
    · next hd =>
      rcases List.mem_cons.1 h with rfl | h
      · exact (Bool.and_eq_true_iff.1 hd).1
      · exact ih h
    · exact ih h

theorem left_ground {shown : Bool} {text : Text} (h : ∀ c ∈ text, isPlain c = true) :
    ground.left shown text = text := by
  induction text generalizing shown with
  | nil => rfl
  | cons c rest ih =>
    have hc : isPlain c = true := h c (by simp)
    simp [left, hc, shows, ih fun d hd => h d (by simp [hd])]

end ControlState

namespace Text

/-- A text between the sequences that begin and end a rendition, such as `1` for bold and `33` for yellow. -/
def rendered (rendition : String) (text : Text) : Text :=
  "\x1b[".toList ++ rendition.toList ++ 'm' :: text ++ "\x1b[0m".toList

/-- A text without control characters and control sequences. -/
def withoutControls (text : Text) : Text :=
  ControlState.ground.left false text

theorem isPlain_of_mem_withoutControls {text : Text} {c : Char} (h : c ∈ withoutControls text) : isPlain c = true :=
  ControlState.isPlain_of_mem_left h

/-- A text of plain characters is left as it is. -/
theorem withoutControls_of_isPlain {text : Text} (h : ∀ c ∈ text, isPlain c = true) : withoutControls text = text :=
  ControlState.left_ground h

/-- What is left of a text is left as it is. -/
theorem withoutControls_withoutControls (text : Text) : withoutControls (withoutControls text) = withoutControls text :=
  withoutControls_of_isPlain fun _ => isPlain_of_mem_withoutControls

end Text

end DiagramText
