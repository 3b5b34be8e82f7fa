import Intake.Word

/-!
Rounding to the nearest multiple, with ties to the even one.

`roundQuotient` rounds a quotient to a whole number, and `nearestDouble` a whole number
to one that a binary floating-point number of 53 significant bits can hold. Both are
exact arithmetic on natural numbers.
-/

namespace Intake

/-- The whole number nearest to `num / den`; a tie goes to the even neighbour. -/
def roundQuotient (num den : Nat) : Nat :=
  let low := num / den
  let twice := 2 * (num % den)
  if twice < den then low
  else if den < twice then low + 1
  else if low % 2 = 0 then low
  else low + 1

/-- The number with at most 53 significant bits nearest to `n`; a tie goes to the one whose
last bit is zero. -/
def nearestDouble (n : Nat) : Nat :=
  if n < Word.significandLimit then n
  else
    let unit := Nat.pow 2 (n.log2 - 52)
    roundQuotient n unit * unit

theorem nearestDouble_of_lt {n : Nat} (h : n < Word.significandLimit) : nearestDouble n = n := by
  rw [nearestDouble, if_pos h]

theorem roundQuotient_of_dvd {num den : Nat} (h : num % den = 0) :
    roundQuotient num den = num / den := by
  simp only [roundQuotient, h]
  split
  · rfl
  · split
    · omega
    · split
      · rfl
      · have : den = 0 := by omega
        simp_all

end Intake
