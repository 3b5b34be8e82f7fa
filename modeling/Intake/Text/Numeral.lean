import Intake.Word

/-!
Decimal numerals of unsigned 64-bit numbers.

One leading plus sign is allowed, and any number of leading zeros. A numeral is read
from left to right, and the first fault is the one that is told.
-/

namespace Intake.Text

/-- Why a text is no numeral. -/
inductive NumeralFault where
  | empty
  | invalidDigit
  | tooLarge
deriving DecidableEq, Repr

/-- What is told of a text that is no numeral. -/
def NumeralFault.message : NumeralFault → String
  | .empty => "cannot parse integer from empty string"
  | .invalidDigit => "invalid digit found in string"
  | .tooLarge => "number too large to fit in target type"

/-- Reads the digits behind those that made up `value`. -/
def readDigits (value : Nat) : List Char → Except NumeralFault Nat
  | [] => .ok value
  | c :: cs =>
    if c.isDigit then
      let next := value * 10 + (c.toNat - 48)
      if next < Word.limit then readDigits next cs else .error .tooLarge
    else .error .invalidDigit

/-- Reads a numeral. -/
def readNumeral (s : String) : Except NumeralFault Nat :=
  match s.toList with
  | [] => .error .empty
  | ['+'] => .error .invalidDigit
  | '+' :: digits => readDigits 0 digits
  | digits => readDigits 0 digits

theorem readDigits_lt {value n : Nat} {cs : List Char} (small : value < Word.limit)
    (h : readDigits value cs = .ok n) : n < Word.limit := by
  induction cs generalizing value with
  | nil =>
    simp only [readDigits, Except.ok.injEq] at h
    exact h ▸ small
  | cons c cs ih =>
    simp only [readDigits] at h
    split at h
    · split at h
      · next fits => exact ih fits h
      · simp at h
    · simp at h

end Intake.Text
