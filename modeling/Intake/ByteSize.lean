import Intake.Rounding

/-!
Sizes in bytes, and how they are shown.

A size is shown in the largest unit that it fills: as a whole number when the unit
divides it, else with two decimals.
-/

namespace Intake.ByteSize

def kib : Nat := 1024

def mib : Nat := 1024 * kib

def gib : Nat := 1024 * mib

/-- The largest size that can be told: sizes are unsigned 64-bit numbers. -/
def max : Nat := Word.limit - 1

/-- A number of MiB in bytes, or the largest size when that is more. -/
def ofMib (count : Nat) : Nat :=
  min (count * mib) max

/-- The hundredths of `unit` that are shown for a size: the size, as a double, by the unit. -/
def hundredths (bytes unit : Nat) : Nat :=
  roundQuotient (nearestDouble bytes * 100) unit

/-- Hundredths as a decimal with two places. -/
def decimal (n : Nat) : String :=
  let places := n % 100
  toString (n / 100) ++ "." ++ (if places < 10 then "0" else "") ++ toString places

/-- A size in the given unit. -/
def inUnit (bytes unit : Nat) (name : String) : String :=
  if bytes % unit = 0 then toString (bytes / unit) ++ " " ++ name
  else decimal (hundredths bytes unit) ++ " " ++ name

/-- A size as it is shown to people. -/
def describe (bytes : Nat) : String :=
  if gib ≤ bytes then inUnit bytes gib "GiB"
  else if mib ≤ bytes then inUnit bytes mib "MiB"
  else if kib ≤ bytes then inUnit bytes kib "KiB"
  else toString bytes ++ " bytes"

theorem ofMib_le (count : Nat) : ofMib count ≤ count * mib :=
  Nat.min_le_left ..

end Intake.ByteSize
