/-!
Digits in any base up to thirty-six.
-/

namespace Intake.Text

/-- What a digit stands for. -/
def digitValue? (c : Char) : Option Nat :=
  if '0' ≤ c ∧ c ≤ '9' then some (c.toNat - 48)
  else if 'a' ≤ c ∧ c ≤ 'z' then some (c.toNat - 87)
  else if 'A' ≤ c ∧ c ≤ 'Z' then some (c.toNat - 55)
  else none

/-- Takes a digit behind those that made up `value`. -/
def takeDigit (base value : Nat) (c : Char) : Option Nat :=
  match digitValue? c with
  | some digit => if digit < base then some (value * base + digit) else none
  | none => none

/-- Reads digits, of which there is one at least. -/
def readBase (base : Nat) (digits : List Char) : Option Nat :=
  if digits = [] then none else digits.foldlM (takeDigit base) 0

end Intake.Text
