import Intake.ByteSize
import Intake.Proofs.ByteSize.Rounding
import Intake.Proofs.Text.Numeral
import Mathlib.Algebra.Order.Field.Rat
import Mathlib.Data.List.TakeWhile
import Mathlib.Data.Rat.Cast.Order
import Mathlib.Tactic.Linarith
import Mathlib.Tactic.Ring

/-!
# What a shown size stands for

A shown size can be read back as a number of units (`read?`). It stands for the size that it was
made from, up to rounding to hundredths of the unit and, above 2 ^ 53 octets, to a double.

* `exists_read?_describe`: every shown size can be read, and what it stands for.
* `hundredfold_mono`: a larger size stands for more, also where the unit changes.
* `hundredfold_error`: how far what is shown is from the size.
* `point_mem_inUnit_iff`: when there are decimals. A size without decimals is exact
  (`hundredfold_of_dvd`).
-/

namespace Intake.ByteSize

/-! ## Reading -/

/-- A size as it is shown. -/
structure Shown where
  number : ℚ
  unit : Nat

/-- How many octets a shown size stands for. -/
def Shown.amount (s : Shown) : ℚ :=
  s.number * s.unit

/-- The units by their names. -/
def units : List (String × Nat) :=
  [("bytes", 1), ("KiB", kib), ("MiB", mib), ("GiB", gib)]

/-- The number that a decimal stands for: digits, and perhaps a point and more digits. -/
def readDecimal? (cs : List Char) : Option ℚ :=
  let whole := cs.takeWhile Char.isDigit
  if whole = [] then none
  else
    match cs.dropWhile Char.isDigit with
    | [] => some (Nat.ofDigitChars 10 whole 0)
    | '.' :: places =>
      if places ≠ [] ∧ places.all Char.isDigit then
        some (Nat.ofDigitChars 10 whole 0 + Nat.ofDigitChars 10 places 0 / 10 ^ places.length)
      else none
    | _ => none

/-- Reads a shown size: a decimal, a blank and the name of a unit. -/
def read? (text : String) : Option Shown :=
  match text.toList.dropWhile (· != ' ') with
  | ' ' :: name => do
    let number ← readDecimal? (text.toList.takeWhile (· != ' '))
    let unit ← units.lookup (String.ofList name)
    return { number, unit }
  | _ => none

section

variable {whole places : List Char}

theorem readDecimal?_digits (nonempty : whole ≠ []) (digits : ∀ c ∈ whole, c.isDigit = true) :
    readDecimal? whole = some (Nat.ofDigitChars 10 whole 0 : ℚ) := by
  have taken : whole.takeWhile Char.isDigit = whole := List.takeWhile_eq_self_iff.mpr digits
  have dropped : whole.dropWhile Char.isDigit = [] := List.dropWhile_eq_nil_iff.mpr digits
  rw [readDecimal?, taken, dropped, if_neg nonempty]

theorem readDecimal?_places (nonempty : whole ≠ []) (digits : ∀ c ∈ whole, c.isDigit = true)
    (some_ : places ≠ []) (more : ∀ c ∈ places, c.isDigit = true) :
    readDecimal? (whole ++ '.' :: places) = some
      (Nat.ofDigitChars 10 whole 0 + Nat.ofDigitChars 10 places 0 / 10 ^ places.length : ℚ) := by
  have stop : Char.isDigit '.' = false := by decide
  have taken : (whole ++ '.' :: places).takeWhile Char.isDigit = whole := by
    rw [List.takeWhile_append_of_pos digits, List.takeWhile_cons_of_neg (by simp [stop]),
      List.append_nil]
  have dropped : (whole ++ '.' :: places).dropWhile Char.isDigit = '.' :: places := by
    rw [List.dropWhile_append_of_pos digits, List.dropWhile_cons_of_neg (by simp [stop])]
  rw [readDecimal?, taken, dropped, if_neg nonempty]
  exact if_pos ⟨some_, List.all_eq_true.mpr more⟩

/-- A number and a unit's name, with a blank between them, are read as such. -/
theorem read?_of_number {text name : String} {number : ℚ} {unit : Nat}
    (solid : ∀ c ∈ text.toList, c ≠ ' ') (read : readDecimal? text.toList = some number)
    (named : units.lookup name = some unit) :
    read? (text ++ " " ++ name) = some { number, unit } := by
  have solid' : ∀ c ∈ text.toList, (c != ' ') = true :=
    fun c member => bne_iff_ne.mpr (solid c member)
  have spread : (text ++ " " ++ name).toList = text.toList ++ ' ' :: name.toList := by
    rw [String.toList_append, String.toList_append, List.append_assoc]
    rfl
  have taken : (text.toList ++ ' ' :: name.toList).takeWhile (· != ' ') = text.toList := by
    rw [List.takeWhile_append_of_pos solid', List.takeWhile_cons_of_neg (by simp), List.append_nil]
  have dropped : (text.toList ++ ' ' :: name.toList).dropWhile (· != ' ') = ' ' :: name.toList := by
    rw [List.dropWhile_append_of_pos solid', List.dropWhile_cons_of_neg (by simp)]
  rw [read?, spread, taken, dropped, read]
  change (do
    let unit ← units.lookup (String.ofList name.toList)
    return (⟨number, unit⟩ : Shown)) = _
  rw [String.ofList_toList, named]
  rfl

end

/-! ## Digits that are shown -/

theorem ne_of_isDigit {c : Char} (digit : c.isDigit = true) : c ≠ ' ' ∧ c ≠ '.' := by
  constructor <;> rintro rfl <;> cases digit

/-- The two places behind the point. -/
def twoPlaces (n : Nat) : String :=
  (if n % 100 < 10 then "0" else "") ++ toString (n % 100)

theorem decimal_eq (n : Nat) : decimal n = toString (n / 100) ++ "." ++ twoPlaces n := by
  rw [twoPlaces, ← String.append_assoc]
  rfl

theorem toList_decimal (n : Nat) :
    (decimal n).toList = (toString (n / 100)).toList ++ '.' :: (twoPlaces n).toList := by
  rw [decimal_eq, String.toList_append, String.toList_append, List.append_assoc]
  rfl

theorem length_twoPlaces (n : Nat) : (twoPlaces n).toList.length = 2 := by
  have all : ∀ p < 100, ((if p < 10 then "0" else "") ++ toString p).toList.length = 2 := by decide
  exact all (n % 100) (Nat.mod_lt n (by decide))

theorem isDigit_of_mem_twoPlaces {n : Nat} {c : Char} (member : c ∈ (twoPlaces n).toList) :
    c.isDigit = true := by
  rw [twoPlaces, String.toList_append, List.mem_append] at member
  rcases member with zero | place
  · split at zero
    · obtain rfl : c = '0' := by simpa using zero
      decide
    · simp at zero
  · exact Text.isDigit_of_mem_toString place

theorem ofDigitChars_twoPlaces (n : Nat) :
    Nat.ofDigitChars 10 (twoPlaces n).toList 0 = n % 100 := by
  rw [twoPlaces, String.toList_append, Nat.ofDigitChars_append]
  have lead : Nat.ofDigitChars 10 (if n % 100 < 10 then "0" else "").toList 0 = 0 := by
    split <;> rfl
  rw [lead, Text.ofDigitChars_toString]

/-- Hundredths that are shown as a decimal are read as such. -/
theorem readDecimal?_decimal (n : Nat) : readDecimal? (decimal n).toList = some (n / 100 : ℚ) := by
  have some_ : (twoPlaces n).toList ≠ [] := by
    intro empty
    have two := length_twoPlaces n
    rw [empty] at two
    cases two
  rw [toList_decimal, readDecimal?_places (Text.toList_toString_ne_nil _)
    (fun _ => Text.isDigit_of_mem_toString) some_ (fun _ => isDigit_of_mem_twoPlaces),
    length_twoPlaces, Text.ofDigitChars_toString, ofDigitChars_twoPlaces]
  have whole : ((n / 100 : Nat) : ℚ) * 100 + (n % 100 : Nat) = n := by
    exact_mod_cast Nat.div_add_mod' n 100
  congr 1
  linarith

/-! ## Sizes in their units -/

/-- The largest unit that a size fills, or the octet. -/
def unitOf (bytes : Nat) : Nat :=
  if gib ≤ bytes then gib else if mib ≤ bytes then mib else if kib ≤ bytes then kib else 1

/-- A hundred times the octets that a shown size stands for. -/
def hundredfold (bytes : Nat) : Nat :=
  hundredths bytes (unitOf bytes) * unitOf bytes

/-- Sizes up to here have a unit that is exact whenever it divides them. -/
def exactLimit : Nat := Word.significandLimit * gib

variable {a b : Nat}

theorem unitOf_cases (b : Nat) :
    (unitOf b = gib ∧ gib ≤ b) ∨ (unitOf b = mib ∧ mib ≤ b ∧ b < gib) ∨
      (unitOf b = kib ∧ kib ≤ b ∧ b < mib) ∨ (unitOf b = 1 ∧ b < kib) := by
  unfold unitOf
  split
  · next filled => exact .inl ⟨rfl, filled⟩
  · next less =>
    split
    · next filled => exact .inr (.inl ⟨rfl, filled, Nat.not_le.mp less⟩)
    · next less =>
      split
      · next filled => exact .inr (.inr (.inl ⟨rfl, filled, Nat.not_le.mp less⟩))
      · next less => exact .inr (.inr (.inr ⟨rfl, Nat.not_le.mp less⟩))

/-- A size is shown in its unit. -/
theorem describe_eq_inUnit (b : Nat) :
    ∃ name, units.lookup name = some (unitOf b) ∧ describe b = inUnit b (unitOf b) name := by
  unfold describe unitOf
  split
  · exact ⟨"GiB", rfl, rfl⟩
  · split
    · exact ⟨"MiB", rfl, rfl⟩
    · split
      · exact ⟨"KiB", rfl, rfl⟩
      · refine ⟨"bytes", rfl, ?_⟩
        rw [inUnit, if_pos (Nat.mod_one b), Nat.div_one, String.append_assoc]
        rfl

/-- There is a decimal point if the unit does not divide the size. -/
theorem point_mem_inUnit_iff {unit : Nat} {name : String}
    (named : units.lookup name = some unit) :
    '.' ∈ (inUnit b unit name).toList ↔ ¬ unit ∣ b := by
  have whole (n : Nat) : '.' ∉ (toString n).toList :=
    fun member => (ne_of_isDigit (Text.isDigit_of_mem_toString member)).2 rfl
  have letters : ∀ entry ∈ units, '.' ∉ (" " ++ entry.1).toList := by decide
  obtain ⟨front, rest, split_, -⟩ := List.lookup_eq_some_iff.mp named
  have solid := letters (name, unit) (split_ ▸ List.mem_append_right _ (List.mem_cons_self ..))
  rw [Nat.dvd_iff_mod_eq_zero, inUnit]
  split
  · next divides =>
    rw [String.append_assoc, String.toList_append, List.mem_append]
    exact iff_of_false (not_or.mpr ⟨whole _, solid⟩) (not_not.mpr divides)
  · next divides =>
    rw [String.append_assoc, String.toList_append, List.mem_append, toList_decimal]
    exact iff_of_true (.inl (List.mem_append_right _ (List.mem_cons_self ..))) divides

/-! ## Order -/

theorem unitOf_pos (b : Nat) : 0 < unitOf b := by
  rcases unitOf_cases b with ⟨same, -⟩ | ⟨same, -⟩ | ⟨same, -⟩ | ⟨same, -⟩ <;>
    rw [same] <;> decide

/-- Units are powers of two. -/
theorem exists_unitOf_eq_pow (b : Nat) : ∃ e, unitOf b = 2 ^ e := by
  rcases unitOf_cases b with ⟨same, -⟩ | ⟨same, -⟩ | ⟨same, -⟩ | ⟨same, -⟩
  · exact ⟨30, same⟩
  · exact ⟨20, same⟩
  · exact ⟨10, same⟩
  · exact ⟨0, same⟩

/-- The unit of a size divides those of larger sizes, and a size whose unit is another is smaller
than that unit. -/
theorem unitOf_cases_of_le (le : a ≤ b) :
    unitOf a = unitOf b ∨ (unitOf a ∣ unitOf b ∧ a ≤ unitOf b ∧ unitOf b ≤ b) := by
  have sizes : kib = 2 ^ 10 ∧ mib = 2 ^ 20 ∧ gib = 2 ^ 30 := by decide
  have nested : kib ∣ mib ∧ mib ∣ gib ∧ kib ∣ gib := by decide
  obtain ⟨small, middle, large⟩ := sizes
  rcases unitOf_cases a with ⟨same, range⟩ | ⟨same, range⟩ | ⟨same, range⟩ | ⟨same, range⟩ <;>
    rcases unitOf_cases b with ⟨other, range'⟩ | ⟨other, range'⟩ | ⟨other, range'⟩ |
      ⟨other, range'⟩ <;>
    rw [same, other] <;>
    omega

/-- A whole number of units, up to 2 ^ 53 of them, is shown as it is. -/
theorem hundredths_mul (k : Nat) {unit : Nat} (power : ∃ e, unit = 2 ^ e)
    (small : k < Word.significandLimit) : hundredths (k * unit) unit = k * 100 := by
  obtain ⟨e, rfl⟩ := power
  have whole : k * 2 ^ e * 100 = k * 100 * 2 ^ e := Nat.mul_right_comm ..
  rw [hundredths, nearestDouble_mul_pow small, whole, roundQuotient_mul _ (Nat.two_pow_pos e)]

theorem hundredths_mono (le : a ≤ b) (unit : Nat) : hundredths a unit ≤ hundredths b unit :=
  roundQuotient_mono (Nat.mul_le_mul_right _ (nearestDouble_mono le)) unit

/-- A size below the limit that is a whole number of units is exact in it. -/
theorem hundredths_mul_of_dvd {unit : Nat} (power : ∃ e, unit = 2 ^ e) (whole : unit ∣ b)
    (few : b < Word.significandLimit * unit) : hundredths b unit * unit = 100 * b := by
  obtain ⟨k, rfl⟩ := whole
  have positive : 0 < unit := by
    obtain ⟨e, rfl⟩ := power
    exact Nat.two_pow_pos e
  rw [Nat.mul_comm unit k] at few ⊢
  rw [hundredths_mul k power (Nat.lt_of_mul_lt_mul_right few), Nat.mul_right_comm, Nat.mul_comm]

theorem lt_mul_unitOf (small : b < exactLimit) : b < Word.significandLimit * unitOf b := by
  rcases unitOf_cases b with ⟨same, -⟩ | ⟨-, -, below⟩ | ⟨-, -, below⟩ | ⟨-, below⟩
  · rw [same]
    exact small
  all_goals
    refine Nat.lt_of_lt_of_le ?_ (Nat.le_mul_of_pos_right _ (unitOf_pos b))
    refine Nat.lt_trans below ?_
    decide

/-- A size that its unit divides stands for itself. -/
theorem hundredfold_of_dvd (whole : unitOf b ∣ b) (small : b < exactLimit) :
    hundredfold b = 100 * b :=
  hundredths_mul_of_dvd (exists_unitOf_eq_pow b) whole (lt_mul_unitOf small)

/-- A larger size stands for more, also where the unit changes. -/
theorem hundredfold_mono (le : a ≤ b) : hundredfold a ≤ hundredfold b := by
  rcases unitOf_cases_of_le le with same | ⟨divides, below, filled⟩
  · rw [hundredfold, hundredfold, same]
    exact Nat.mul_le_mul_right _ (hundredths_mono le _)
  · -- The larger unit lies between the two sizes, and is exact in either unit.
    have few (c : Nat) : unitOf b < Word.significandLimit * unitOf c := by
      refine Nat.lt_of_lt_of_le ?_ (Nat.le_mul_of_pos_right _ (unitOf_pos c))
      rcases unitOf_cases b with ⟨same, -⟩ | ⟨same, -⟩ | ⟨same, -⟩ | ⟨same, -⟩ <;>
        rw [same] <;> decide
    calc hundredfold a ≤ hundredths (unitOf b) (unitOf a) * unitOf a :=
          Nat.mul_le_mul_right _ (hundredths_mono below _)
      _ = 100 * unitOf b := hundredths_mul_of_dvd (exists_unitOf_eq_pow a) divides (few a)
      _ = hundredths (unitOf b) (unitOf b) * unitOf b :=
          (hundredths_mul_of_dvd (exists_unitOf_eq_pow b) (Nat.dvd_refl _) (few b)).symm
      _ ≤ hundredfold b := Nat.mul_le_mul_right _ (hundredths_mono filled _)

/-! ## What a shown size stands for -/

/-- Every shown size can be read, and stands for what its hundredths tell. -/
theorem exists_read?_describe (small : b < exactLimit) :
    ∃ shown, read? (describe b) = some shown ∧ shown.unit = unitOf b ∧
      shown.amount = hundredfold b / 100 := by
  obtain ⟨name, named, same⟩ := describe_eq_inUnit b
  rw [same, inUnit]
  split
  · next divides =>
    have digits : ∀ c ∈ (toString (b / unitOf b)).toList, c.isDigit = true :=
      fun _ => Text.isDigit_of_mem_toString
    refine ⟨⟨(b / unitOf b : Nat), unitOf b⟩, ?_, rfl, ?_⟩
    · refine read?_of_number (fun c member => (ne_of_isDigit (digits c member)).1) ?_ named
      rw [readDecimal?_digits (Text.toList_toString_ne_nil _) digits, Text.ofDigitChars_toString]
    · have whole := Nat.dvd_of_mod_eq_zero divides
      have back : ((b / unitOf b : Nat) : ℚ) * unitOf b = b := by
        exact_mod_cast Nat.div_mul_cancel whole
      rw [Shown.amount, hundredfold_of_dvd whole small, back]
      push_cast
      ring
  · refine ⟨⟨hundredths b (unitOf b) / 100, unitOf b⟩, ?_, rfl, ?_⟩
    · refine read?_of_number (fun c member => ?_) (readDecimal?_decimal _) named
      rw [toList_decimal, List.mem_append, List.mem_cons] at member
      rcases member with digit | rfl | digit
      · exact (ne_of_isDigit (Text.isDigit_of_mem_toString digit)).1
      · decide
      · exact (ne_of_isDigit (isDigit_of_mem_twoPlaces digit)).1
    · rw [Shown.amount, hundredfold]
      push_cast
      ring

/-- What is shown differs from the size by half a hundredth of the unit at most, and by 1024 octets
more where a double does not hold the size. -/
theorem hundredfold_error (small : b < Word.limit) :
    |(hundredfold b / 100 : ℚ) - b| ≤ unitOf b / 200 + 1024 ∧
      (b < 2 ^ 53 → |(hundredfold b / 100 : ℚ) - b| ≤ unitOf b / 200) := by
  have rounded := roundQuotient_error (nearestDouble b * 100) (unitOf_pos b)
  have near := nearestDouble_error small
  have low : (2 * hundredfold b : ℚ) ≤ 2 * (nearestDouble b * 100) + unitOf b := by
    exact_mod_cast rounded.1
  have high : (2 * (nearestDouble b * 100) : ℚ) ≤ 2 * hundredfold b + unitOf b := by
    exact_mod_cast rounded.2
  have above : (nearestDouble b : ℚ) ≤ b + 1024 := by exact_mod_cast near.1
  have below : (b : ℚ) ≤ nearestDouble b + 1024 := by exact_mod_cast near.2
  refine ⟨abs_le.mpr ⟨by linarith, by linarith⟩, fun exact_ => ?_⟩
  rw [nearestDouble_of_lt (Word.significandLimit_eq ▸ exact_)] at low high
  exact abs_le.mpr ⟨by linarith, by linarith⟩

end Intake.ByteSize
