import Intake.Text.Blank
import Intake.Text.Numeral
import Mathlib.Data.List.TakeWhile

/-!
# Numerals and the numbers that they stand for

Digits are read as the number that they spell, if they are all digits and that number takes no
more than 64 bits (`readDigits_eq_ok_iff`). So a number that is written in decimal is read as
itself, or not at all (`readNumeral_toString_eq_ok_iff`), and a text that may have blanks around it
is read as what is within them spells (`readNumeral_trim_eq_ok_iff`).
-/

namespace Intake.Text

/-! ## Digits -/

/-- More digits never spell a smaller number. -/
theorem le_ofDigitChars (value : Nat) (cs : List Char) :
    value ≤ Nat.ofDigitChars 10 cs value := by
  induction cs generalizing value with
  | nil => exact Nat.le_of_eq rfl
  | cons c cs ih =>
    rw [Nat.ofDigitChars_cons]
    have further := ih (10 * value + (c.toNat - '0'.toNat))
    omega

/-- Digits are read as the number that they spell, unless that takes more than 64 bits. -/
theorem readDigits_eq_ok_iff {value n : Nat} {cs : List Char} (small : value < Word.limit) :
    readDigits value cs = .ok n ↔
      (∀ c ∈ cs, c.isDigit = true) ∧ Nat.ofDigitChars 10 cs value = n ∧ n < Word.limit := by
  induction cs generalizing value with
  | nil =>
    rw [readDigits, Nat.ofDigitChars_nil, Except.ok.injEq]
    constructor
    · rintro rfl
      exact ⟨List.forall_mem_nil _, rfl, small⟩
    · exact fun spelled => spelled.2.1
  | cons c cs ih =>
    have next : value * 10 + (c.toNat - 48) = 10 * value + (c.toNat - '0'.toNat) := by
      rw [Nat.mul_comm]
      rfl
    rw [readDigits, Nat.ofDigitChars_cons, ← next, List.forall_mem_cons]
    dsimp only
    split
    · next digit =>
      split
      · next fits =>
        rw [ih fits]
        simp only [digit, true_and]
      · next large =>
        -- What the digits so far spell is too large already, and it only grows.
        have grows := le_ofDigitChars (value * 10 + (c.toNat - 48)) cs
        refine iff_of_false (by simp) ?_
        rintro ⟨-, rfl, fits⟩
        omega
    · next other => exact iff_of_false (by simp) fun spelled => other spelled.1.1

/-- A numeral stands for a number of 64 bits. -/
theorem readNumeral_lt {s : String} {n : Nat} (h : readNumeral s = .ok n) : n < Word.limit := by
  have positive : 0 < Word.limit := by decide
  unfold readNumeral at h
  split at h
  · cases h
  · cases h
  · exact readDigits_lt positive h
  · exact readDigits_lt positive h

/-! ## Numerals -/

/-- A text spells a number: it is digits, or a plus sign and digits behind it. -/
inductive Spells : List Char → Nat → Prop
  | plain {digits : List Char} (nonempty : digits ≠ [])
    (all : ∀ c ∈ digits, c.isDigit = true) : Spells digits (Nat.ofDigitChars 10 digits 0)
  | signed {digits : List Char} (nonempty : digits ≠ [])
    (all : ∀ c ∈ digits, c.isDigit = true) : Spells ('+' :: digits) (Nat.ofDigitChars 10 digits 0)

variable {cs : List Char} {n m : Nat}

theorem spells_signed_iff :
    Spells ('+' :: cs) n ↔
      cs ≠ [] ∧ (∀ c ∈ cs, c.isDigit = true) ∧ Nat.ofDigitChars 10 cs 0 = n := by
  constructor
  · intro spelled
    cases spelled with
    | plain _ all => cases all '+' (List.mem_cons_self ..)
    | signed nonempty all => exact ⟨nonempty, all, rfl⟩
  · rintro ⟨nonempty, all, rfl⟩
    exact .signed nonempty all

theorem spells_iff_of_unsigned (unsigned : ∀ digits, cs ≠ '+' :: digits) :
    Spells cs n ↔ cs ≠ [] ∧ (∀ c ∈ cs, c.isDigit = true) ∧ Nat.ofDigitChars 10 cs 0 = n := by
  constructor
  · intro spelled
    cases spelled with
    | plain nonempty all => exact ⟨nonempty, all, rfl⟩
    | @signed digits => exact absurd rfl (unsigned digits)
  · rintro ⟨nonempty, all, rfl⟩
    exact .plain nonempty all

/-- A text spells one number at most. -/
theorem Spells.unique (spelled : Spells cs n) (too : Spells cs m) : n = m := by
  cases spelled with
  | plain nonempty all =>
    have unsigned : ∀ digits, cs ≠ '+' :: digits := by
      rintro digits rfl
      cases all '+' (List.mem_cons_self ..)
    exact ((spells_iff_of_unsigned unsigned).mp too).2.2
  | signed nonempty all => exact (spells_signed_iff.mp too).2.2

/-- A text is read as the number that it spells, unless that takes more than 64 bits. -/
theorem readNumeral_eq_ok_iff {s : String} :
    readNumeral s = .ok n ↔ Spells s.toList n ∧ n < Word.limit := by
  unfold readNumeral
  generalize s.toList = cs
  split
  · refine iff_of_false nofun fun both => ?_
    exact ((spells_iff_of_unsigned (fun _ => List.cons_ne_nil _ _ ∘ Eq.symm)).mp both.1).1 rfl
  · refine iff_of_false nofun fun both => ?_
    exact (spells_signed_iff.mp both.1).1 rfl
  · next digits more =>
    have nonempty : digits ≠ [] := fun empty => more (empty ▸ rfl)
    rw [readDigits_eq_ok_iff (by decide), spells_signed_iff, and_iff_right nonempty, and_assoc]
  · next nonempty _ unsigned =>
    rw [readDigits_eq_ok_iff (by decide), spells_iff_of_unsigned unsigned, and_iff_right nonempty,
      and_assoc]

/-! ## Numbers in decimal -/

theorem isDigit_of_mem_toString {n : Nat} {c : Char} (member : c ∈ (toString n).toList) :
    c.isDigit = true := by
  rw [Nat.toString_eq_repr, Nat.toList_repr] at member
  exact Nat.isDigit_of_mem_toDigits (by decide) (by decide) member

theorem toList_toString_ne_nil (n : Nat) : (toString n).toList ≠ [] := by
  rw [Nat.toString_eq_repr, Nat.toList_repr]
  exact Nat.toDigits_ne_nil

/-- A number that is written in decimal spells itself. -/
theorem ofDigitChars_toString (n : Nat) : Nat.ofDigitChars 10 (toString n).toList 0 = n := by
  rw [Nat.toString_eq_repr, Nat.toList_repr]
  exact Nat.ofDigitChars_toDigits (by decide) (by decide)

theorem spells_toString (n : Nat) : Spells (toString n).toList n := by
  have plain := Spells.plain (toList_toString_ne_nil n) fun _ => isDigit_of_mem_toString
  rwa [ofDigitChars_toString] at plain

/-- A number that is written in decimal is read as itself if it takes no more than 64 bits, and
is not read otherwise. -/
theorem readNumeral_toString_eq_ok_iff :
    readNumeral (toString n) = .ok m ↔ n = m ∧ m < Word.limit := by
  rw [readNumeral_eq_ok_iff]
  refine and_congr_left fun _ => ⟨(spells_toString n).unique, ?_⟩
  rintro rfl
  exact spells_toString n

/-! ## Blanks around numerals -/

theorem isBlank_of_isDigit {c : Char} (digit : c.isDigit = true) : isBlank c = false := by
  have range : 48 ≤ c.toNat ∧ c.toNat ≤ 57 := by
    simpa [Char.isDigit, UInt32.le_iff_toNat_le] using digit
  have other : [0x20, 0x85, 0xA0, 0x1680, 0x2028, 0x2029, 0x202F, 0x205F, 0x3000].contains
      c.toNat = false := by
    simp only [List.contains_cons, List.contains_nil, Bool.or_false, Bool.or_eq_false_iff,
      beq_eq_false_iff_ne]
    omega
  rw [isBlank, other]
  simp only [Bool.or_false, Bool.or_eq_false_iff, Bool.and_eq_false_iff, decide_eq_false_iff_not]
  omega

theorem dropWhile_isBlank {cs : List Char} (plain : ∀ c ∈ cs, isBlank c = false) :
    cs.dropWhile isBlank = cs := by
  cases cs with
  | nil => rfl
  | cons c cs => rw [List.dropWhile_cons, if_neg (by simp [plain c (List.mem_cons_self ..)])]

/-- Blanks on either side of a text without blanks are taken off. -/
theorem trimChars_append {before core after : List Char} (lead : ∀ c ∈ before, isBlank c = true)
    (tail : ∀ c ∈ after, isBlank c = true) (plain : ∀ c ∈ core, isBlank c = false) :
    trimChars (before ++ core ++ after) = core := by
  have behind : (core ++ after).reverse.dropWhile isBlank = core.reverse := by
    rw [List.reverse_append, List.dropWhile_append_of_pos fun c member =>
      tail c (List.mem_reverse.mp member)]
    exact dropWhile_isBlank fun c member => plain c (List.mem_reverse.mp member)
  rw [trimChars, List.append_assoc, List.dropWhile_append_of_pos lead]
  cases core with
  | nil =>
    have nothing : after.dropWhile isBlank = [] := List.dropWhile_eq_nil_iff.mpr tail
    rw [List.nil_append, nothing]
    rfl
  | cons c core =>
    have begins : (c :: core ++ after).dropWhile isBlank = c :: core ++ after :=
      List.dropWhile_cons_of_neg (by simp [plain c (List.mem_cons_self ..)])
    rw [begins, behind, List.reverse_reverse]

/-- There are no blanks around a text that has none. -/
theorem trim_of_plain {s : String} (plain : ∀ c ∈ s.toList, isBlank c = false) : trim s = s := by
  have same := @trimChars_append [] _ [] nofun nofun plain
  rw [List.nil_append, List.append_nil] at same
  rw [trim, same, String.ofList_toList]

/-- What is taken off a text is blanks on either side of what is left. -/
theorem exists_append_trimChars (cs : List Char) : ∃ before after,
    cs = before ++ trimChars cs ++ after ∧ (∀ c ∈ before, isBlank c = true) ∧
      ∀ c ∈ after, isBlank c = true := by
  let rest := cs.dropWhile isBlank
  refine ⟨cs.takeWhile isBlank, (rest.reverse.takeWhile isBlank).reverse, ?_, ?_, ?_⟩
  · have whole : trimChars cs ++ (rest.reverse.takeWhile isBlank).reverse = rest := by
      rw [trimChars, ← List.reverse_append, List.takeWhile_append_dropWhile, List.reverse_reverse]
    rw [List.append_assoc, whole, List.takeWhile_append_dropWhile]
  · exact fun c member => List.mem_takeWhile_imp member
  · exact fun c member => List.mem_takeWhile_imp (List.mem_reverse.mp member)

/-- A text spells a number, and may have blanks around it. -/
def SpellsWithin (text : String) (n : Nat) : Prop :=
  ∃ before core after, text.toList = before ++ core ++ after ∧ (∀ c ∈ before, isBlank c = true) ∧
    (∀ c ∈ after, isBlank c = true) ∧ Spells core n

theorem not_isBlank_of_spells {cs : List Char} {n : Nat} (spelled : Spells cs n) :
    ∀ c ∈ cs, isBlank c = false := by
  intro c member
  cases spelled with
  | plain _ all => exact isBlank_of_isDigit (all c member)
  | signed _ all =>
    rcases List.mem_cons.mp member with rfl | digit
    · decide
    · exact isBlank_of_isDigit (all c digit)

theorem spellsWithin_iff {text : String} {n : Nat} :
    SpellsWithin text n ↔ Spells (trim text).toList n := by
  rw [trim, String.toList_ofList]
  constructor
  · rintro ⟨before, core, after, whole, lead, tail, spelled⟩
    rw [whole, trimChars_append lead tail (not_isBlank_of_spells spelled)]
    exact spelled
  · intro spelled
    obtain ⟨before, after, whole, lead, tail⟩ := exists_append_trimChars text.toList
    exact ⟨before, _, after, whole, lead, tail, spelled⟩

/-- A text is read as the number that it spells within blanks, unless that takes more than 64
bits. -/
theorem readNumeral_trim_eq_ok_iff {text : String} {n : Nat} :
    readNumeral (trim text) = .ok n ↔ SpellsWithin text n ∧ n < Word.limit := by
  rw [readNumeral_eq_ok_iff, spellsWithin_iff]

theorem SpellsWithin.unique {text : String} {n m : Nat} (spelled : SpellsWithin text n)
    (too : SpellsWithin text m) : n = m :=
  (spellsWithin_iff.mp spelled).unique (spellsWithin_iff.mp too)

/-- A number that is written in decimal is spelled by that. -/
theorem spellsWithin_toString (n : Nat) : SpellsWithin (toString n) n :=
  ⟨[], _, [], (List.append_nil _).symm, nofun, nofun, spells_toString n⟩

theorem trim_toString (n : Nat) : trim (toString n) = toString n :=
  trim_of_plain fun _ member => isBlank_of_isDigit (isDigit_of_mem_toString member)

end Intake.Text
