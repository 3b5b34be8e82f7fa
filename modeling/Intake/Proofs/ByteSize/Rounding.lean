import Intake.Rounding
import Mathlib.Algebra.Ring.Nat
import Mathlib.Tactic.SplitIfs

/-!
# Rounding keeps the order

A rounded quotient is off by half at most (`roundQuotient_error`), and a number that a double holds
by half of the last of its 53 bits (`nearestDouble_error`). Neither rounding changes the order of
what it rounds (`roundQuotient_mono`, `nearestDouble_mono`), and numbers that a double can hold are
left as they are (`nearestDouble_mul_pow`).
-/

namespace Intake

/-! ## Quotients -/

variable {num den : Nat}

/-- A quotient is rounded down or up, whichever is nearer. -/
theorem roundQuotient_cases (num den : Nat) :
    (roundQuotient num den = num / den ∧ 2 * (num % den) ≤ den) ∨
      (roundQuotient num den = num / den + 1 ∧ den ≤ 2 * (num % den)) := by
  dsimp only [roundQuotient]
  split
  · next below => exact .inl ⟨rfl, Nat.le_of_lt below⟩
  · next reached =>
    split
    · next above => exact .inr ⟨rfl, Nat.le_of_lt above⟩
    · next within =>
      split
      · exact .inl ⟨rfl, Nat.not_lt.mp within⟩
      · exact .inr ⟨rfl, Nat.not_lt.mp reached⟩

/-- A rounded quotient differs from the exact one by half at most. -/
theorem roundQuotient_error (num : Nat) (positive : 0 < den) :
    2 * (roundQuotient num den * den) ≤ 2 * num + den ∧
      2 * num ≤ 2 * (roundQuotient num den * den) + den := by
  have whole : num / den * den + num % den = num := Nat.div_add_mod' num den
  have rest : num % den < den := Nat.mod_lt num positive
  rcases roundQuotient_cases num den with ⟨same, low⟩ | ⟨same, high⟩
  · rw [same]
    omega
  · rw [same, Nat.succ_mul (num / den) den]
    omega

theorem roundQuotient_mono {other : Nat} (le : num ≤ other) (den : Nat) :
    roundQuotient num den ≤ roundQuotient other den := by
  have quotients : num / den ≤ other / den := Nat.div_le_div_right le
  rcases Nat.lt_or_eq_of_le quotients with less | same
  · rcases roundQuotient_cases num den with ⟨down, -⟩ | ⟨up, -⟩ <;>
      rcases roundQuotient_cases other den with ⟨down', -⟩ | ⟨up', -⟩ <;> omega
  · -- The whole parts are equal, so the remainders decide.
    have rests : num % den ≤ other % den := by
      have whole := Nat.div_add_mod' num den
      have whole' := Nat.div_add_mod' other den
      rw [same] at whole
      omega
    dsimp only [roundQuotient]
    rw [same]
    split_ifs <;> omega

/-- A whole quotient is left as it is. -/
theorem roundQuotient_mul (k : Nat) (positive : 0 < den) : roundQuotient (k * den) den = k := by
  rw [roundQuotient_of_dvd (Nat.mul_mod_left k den), Nat.mul_div_cancel k positive]

/-! ## Doubles -/

/-- What the last of 53 bits counts for in a number. -/
def lastBit (n : Nat) : Nat :=
  2 ^ (n.log2 - 52)

variable {n m : Nat}

theorem lastBit_pos (n : Nat) : 0 < lastBit n :=
  Nat.two_pow_pos _

theorem nearestDouble_of_ge (large : Word.significandLimit ≤ n) :
    nearestDouble n = roundQuotient n (lastBit n) * lastBit n := by
  rw [nearestDouble, if_neg (Nat.not_lt.mpr large)]
  rfl

/-- A number that takes more than 53 bits begins with as many whole ones. -/
theorem log2_ge (large : Word.significandLimit ≤ n) : 53 ≤ n.log2 := by
  have positive : n ≠ 0 := Nat.ne_of_gt (Nat.lt_of_lt_of_le (by decide) large)
  exact (Nat.le_log2 positive).mpr large

/-- Rounding does not lead out of the powers of two that a number lies between. -/
theorem nearestDouble_between (large : Word.significandLimit ≤ n) :
    2 ^ n.log2 ≤ nearestDouble n ∧ nearestDouble n ≤ 2 ^ (n.log2 + 1) := by
  have positive : n ≠ 0 := Nat.ne_of_gt (Nat.lt_of_lt_of_le (by decide) large)
  have bits := log2_ge large
  have low : 2 ^ n.log2 = 2 ^ 52 * lastBit n := by
    rw [lastBit, ← Nat.pow_add]
    congr 1
    omega
  have high : 2 ^ (n.log2 + 1) = 2 ^ 53 * lastBit n := by
    rw [Nat.pow_succ, low]
    omega
  have above : 2 ^ 52 * lastBit n ≤ n := low ▸ Nat.log2_self_le positive
  have below : n ≤ 2 ^ 53 * lastBit n := high ▸ Nat.le_of_lt Nat.lt_log2_self
  rw [nearestDouble_of_ge large, low, high]
  constructor
  · refine Nat.mul_le_mul_right _ ?_
    calc 2 ^ 52 = roundQuotient (2 ^ 52 * lastBit n) (lastBit n) :=
          (roundQuotient_mul _ (lastBit_pos n)).symm
      _ ≤ roundQuotient n (lastBit n) := roundQuotient_mono above _
  · refine Nat.mul_le_mul_right _ ?_
    calc roundQuotient n (lastBit n) ≤ roundQuotient (2 ^ 53 * lastBit n) (lastBit n) :=
          roundQuotient_mono below _
      _ = 2 ^ 53 := roundQuotient_mul _ (lastBit_pos n)

theorem nearestDouble_mono (le : n ≤ m) : nearestDouble n ≤ nearestDouble m := by
  rcases Nat.lt_or_ge m Word.significandLimit with small | large
  · rw [nearestDouble_of_lt small, nearestDouble_of_lt (Nat.lt_of_le_of_lt le small)]
    exact le
  rcases Nat.lt_or_ge n Word.significandLimit with small' | large'
  · have above := (nearestDouble_between large).1
    have reach : 2 ^ 53 ≤ 2 ^ m.log2 := Nat.pow_le_pow_right (by decide) (log2_ge large)
    have bound : Word.significandLimit = 2 ^ 53 := Word.significandLimit_eq
    rw [nearestDouble_of_lt small']
    omega
  have exponents : n.log2 ≤ m.log2 := by
    have positive : n ≠ 0 := Nat.ne_of_gt (Nat.lt_of_lt_of_le (by decide) large')
    exact (Nat.le_log2 (by omega)).mpr (Nat.le_trans (Nat.log2_self_le positive) le)
  rcases Nat.lt_or_eq_of_le exponents with less | same
  · calc nearestDouble n ≤ 2 ^ (n.log2 + 1) := (nearestDouble_between large').2
      _ ≤ 2 ^ m.log2 := Nat.pow_le_pow_right (by decide) less
      _ ≤ nearestDouble m := (nearestDouble_between large).1
  · have units : lastBit n = lastBit m := by rw [lastBit, lastBit, same]
    rw [nearestDouble_of_ge large, nearestDouble_of_ge large', units]
    exact Nat.mul_le_mul_right _ (roundQuotient_mono le _)

/-- A number of 53 bits, with any number of zeros behind them, is a double. -/
theorem nearestDouble_mul_pow {k : Nat} (small : k < Word.significandLimit) (e : Nat) :
    nearestDouble (k * 2 ^ e) = k * 2 ^ e := by
  rcases Nat.lt_or_ge (k * 2 ^ e) Word.significandLimit with less | large
  · exact nearestDouble_of_lt less
  have positive : k * 2 ^ e ≠ 0 := Nat.ne_of_gt (Nat.lt_of_lt_of_le (by decide) large)
  have short : (k * 2 ^ e).log2 < 53 + e := by
    refine (Nat.log2_lt positive).mpr ?_
    rw [Nat.pow_add]
    exact Nat.mul_lt_mul_of_pos_right small (Nat.two_pow_pos e)
  have zeros : lastBit (k * 2 ^ e) ∣ 2 ^ e := Nat.pow_dvd_pow 2 (by omega)
  have whole : lastBit (k * 2 ^ e) ∣ k * 2 ^ e := Nat.dvd_trans zeros (Nat.dvd_mul_left ..)
  rw [nearestDouble_of_ge large, roundQuotient_of_dvd (Nat.mod_eq_zero_of_dvd whole)]
  exact Nat.div_mul_cancel whole

/-- A number of 64 bits differs from the nearest double by 1024 at most. -/
theorem nearestDouble_error (small : n < Word.limit) :
    nearestDouble n ≤ n + 1024 ∧ n ≤ nearestDouble n + 1024 := by
  rcases Nat.lt_or_ge n Word.significandLimit with less | large
  · rw [nearestDouble_of_lt less]
    omega
  have positive : n ≠ 0 := Nat.ne_of_gt (Nat.lt_of_lt_of_le (by decide) large)
  have bits : n.log2 < 64 := (Nat.log2_lt positive).mpr small
  have coarse : lastBit n ≤ 2 ^ 11 := Nat.pow_le_pow_right (by decide) (by omega)
  have half := roundQuotient_error n (lastBit_pos n)
  rw [nearestDouble_of_ge large]
  omega

end Intake
