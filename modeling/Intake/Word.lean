/-!
The bounds of machine words.
-/

namespace Intake.Word

/-- The first number that takes more than 64 bits. -/
def limit : Nat := 18446744073709551616

/-- The first number that takes more than 63 bits; with a sign, 64 bits reach from minus this
number up to the number before it. -/
def signedLimit : Nat := 9223372036854775808

/-- The first number that takes more than 53 bits. -/
def significandLimit : Nat := 9007199254740992

/-- The first number that takes 53 bits. -/
def significandStart : Nat := 4503599627370496

theorem significandLimit_eq : significandLimit = Nat.pow 2 53 := by decide

example : limit = Nat.pow 2 64 ∧ signedLimit = Nat.pow 2 63 ∧ significandStart = Nat.pow 2 52 := by
  decide

end Intake.Word
