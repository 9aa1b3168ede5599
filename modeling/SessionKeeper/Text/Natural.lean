/-!
# Natural numbers in text

Reads an unsigned 64-bit number as a setting may spell it: an optional plus sign and decimal digits.
-/

namespace SessionKeeper.Text

/-- Why a text is not an unsigned 64-bit number. -/
inductive NaturalError
  | empty
  | invalidDigit
  | tooLarge
  deriving DecidableEq, Repr

/-- The wording of the reason. -/
def NaturalError.message : NaturalError → String
  | .empty => "cannot parse integer from empty string"
  | .invalidDigit => "invalid digit found in string"
  | .tooLarge => "number too large to fit in target type"

/-- The value of a decimal digit. -/
def digitValue (c : Char) : Nat :=
  c.toNat - '0'.toNat

/-- Reads digits from the left. The first digit that is none, or that carries the number past
64 bits, decides the error. -/
def readDigits (acc : Nat) : List Char → Except NaturalError Nat
  | [] => .ok acc
  | c :: cs =>
    if c.isDigit then
      let next := acc * 10 + digitValue c
      if next < Nat.pow 2 64 then readDigits next cs else .error .tooLarge
    else
      .error .invalidDigit

/-- Reads an unsigned 64-bit number. A sign without digits is an invalid digit. -/
def readNatural (s : String) : Except NaturalError Nat :=
  match s.toList with
  | [] => .error .empty
  | ['+'] => .error .invalidDigit
  | '+' :: ds => readDigits 0 ds
  | ds => readDigits 0 ds

end SessionKeeper.Text
