import NodeAtlas.Text.Ascii

/-!
# Numerals with an upper limit

Reading of an unsigned number that must fit below a limit. The digits are taken from the left, so a
number that has grown too large is reported before a later character that is no digit.
-/

namespace NodeAtlas.Text

/-- Why a text is not an acceptable numeral. -/
inductive NumeralFault where
  | empty
  /-- A character is not a digit. -/
  | invalidDigit
  /-- The value exceeds the limit. -/
  | tooLarge
  deriving DecidableEq, Repr

namespace NumeralFault

/-- The fault in words. -/
def message : NumeralFault → String
  | empty => "cannot parse integer from empty string"
  | invalidDigit => "invalid digit found in string"
  | tooLarge => "number too large to fit in target type"

end NumeralFault

/-- Extends the value `acc` by the digits of `cs`, from the left. -/
def readDigits (radix limit acc : Nat) : List Char → Except NumeralFault Nat
  | [] => .ok acc
  | c :: cs =>
    match digit? radix c with
    | none => .error .invalidDigit
    | some d =>
      if acc * radix + d ≤ limit then readDigits radix limit (acc * radix + d) cs
      else .error .tooLarge

/-- Reads digits that may follow one plus sign. -/
def readNumeral (radix limit : Nat) (cs : List Char) : Except NumeralFault Nat :=
  match cs with
  | [] => .error .empty
  | ['+'] => .error .invalidDigit
  | '+' :: ds => readDigits radix limit 0 ds
  | ds => readDigits radix limit 0 ds

end NodeAtlas.Text
