import DiagramText.Text.Basic

/-!
# Natural numbers in decimal

`Text.natural?` reads a number below `2 ^ 64` written in ASCII digits, leading zeros and one plus sign allowed, or
says why it cannot. `Text.ofNat` writes a number without leading zeros.
-/

namespace DiagramText

/-- Why a text is not a natural number in range. -/
inductive NumberError where
  | empty
  | invalidDigit
  | tooLarge
  deriving DecidableEq

/-- The least number that is out of range, `2 ^ 64`. -/
def numberBound : Nat := 0x10000000000000000

/-- The value of an ASCII digit. -/
def digitValue? (c : Char) : Option Nat :=
  if c.isDigit then some (c.toNat - '0'.toNat) else none

namespace Text

/-- The number whose first digits have the value `n` and whose other digits are given. The first fault counts: a
character that is no digit, or a digit with which the number leaves the range. -/
def naturalFrom (n : Nat) : Text → Except NumberError Nat
  | [] => .ok n
  | c :: rest =>
    match digitValue? c with
    | none => .error .invalidDigit
    | some d => if n * 10 + d < numberBound then naturalFrom (n * 10 + d) rest else .error .tooLarge

/-- The number that a text writes in decimal. -/
def natural? : Text → Except NumberError Nat
  | [] => .error .empty
  | ['+'] => .error .invalidDigit
  | '+' :: rest => naturalFrom 0 rest
  | text => naturalFrom 0 text

/-- A number in decimal. -/
def ofNat (n : Nat) : Text :=
  Nat.toDigits 10 n

end Text

end DiagramText
