import Intake.Rounding

/-!
Floating-point numbers of 64 bits: how a decimal is read as one, and how one is shown.

A decimal is rounded to the nearest number, in exact arithmetic. A number is shown by the
fewest decimal digits that lie closer to it than to any other number, without an exponent.
-/

namespace Intake

/-- A floating-point number. -/
inductive Double where
  | nan
  | infinite (negative : Bool)
  /-- The number `mantissa * 2 ^ exponent`. -/
  | finite (negative : Bool) (mantissa : Nat) (exponent : Int)
deriving DecidableEq, Repr, Inhabited

namespace Double

/-- The exponent of the least numbers. -/
def minExponent : Int := -1074

/-- The exponent of the greatest numbers. -/
def maxExponent : Int := 971

/-! ## Reading -/

/-- A fraction, as its numerator and denominator. -/
abbrev Fraction := Nat × Nat

/-- The fraction `f * base ^ exponent`. -/
def scale (f : Fraction) (base : Nat) (exponent : Int) : Fraction :=
  (f.1 * Nat.pow base exponent.toNat, f.2 * Nat.pow base (-exponent).toNat)

/-- The greatest `e` for which `2 ^ e` is not above the fraction, which is not zero. -/
def log2 (f : Fraction) : Int :=
  let guess : Int := (f.1.log2 : Int) - (f.2.log2 : Int)
  let (num, den) := scale f 2 (-guess)
  if den ≤ num then guess else guess - 1

/-- A mantissa and an exponent, where the mantissa may have just grown to 54 bits. -/
def ofParts (negative : Bool) (mantissa : Nat) (exponent : Int) : Double :=
  let (mantissa, exponent) :=
    if mantissa = Word.significandLimit then (Word.significandStart, exponent + 1)
    else (mantissa, exponent)
  if maxExponent < exponent then .infinite negative else .finite negative mantissa exponent

/-- The number nearest to a fraction. -/
def ofFraction (negative : Bool) (f : Fraction) : Double :=
  if f.1 = 0 then .finite negative 0 minExponent
  else
    let exponent := max (log2 f - 52) minExponent
    let (num, den) := scale f 2 (-exponent)
    ofParts negative (roundQuotient num den) exponent

/-- The number of decimal digits of `n`; zero has one. -/
def digitCount (n : Nat) : Nat :=
  (Nat.toDigits 10 n).length

/-- The number nearest to `digits * 10 ^ exponent`. What is beyond all numbers in size is
told by the count of the digits. -/
def ofDecimal (negative : Bool) (digits : Nat) (exponent : Int) : Double :=
  let magnitude := exponent + digitCount digits
  if digits = 0 ∨ magnitude < -400 then .finite negative 0 minExponent
  else if 400 < magnitude then .infinite negative
  else ofFraction negative (scale (digits, 1) 10 exponent)

/-- The value of digits. -/
def ofDigits (digits : List Char) : Nat :=
  digits.foldl (fun value c => value * 10 + (c.toNat - 48)) 0

/-- Without a sign in front of it. -/
def dropSign : List Char → Bool × List Char
  | '-' :: rest => (true, rest)
  | '+' :: rest => (false, rest)
  | cs => (false, cs)

/-- Reads what follows the digits of a decimal: nothing, or an exponent. -/
def readExponent : List Char → Option Int
  | [] => some 0
  | c :: rest =>
    let (negative, digits) := dropSign rest
    if (c = 'e' ∨ c = 'E') ∧ digits ≠ [] ∧ digits.all Char.isDigit then
      some (if negative then -(ofDigits digits : Int) else ofDigits digits)
    else none

/-- Reads a decimal without a sign: digits with a point among them, of which there is one at
least, and an exponent. -/
def readUnsigned (negative : Bool) (cs : List Char) : Option Double :=
  let whole := cs.takeWhile Char.isDigit
  let (places, rest) :=
    match cs.dropWhile Char.isDigit with
    | '.' :: rest => (rest.takeWhile Char.isDigit, rest.dropWhile Char.isDigit)
    | rest => ([], rest)
  if whole = [] ∧ places = [] then none
  else
    (readExponent rest).map fun exponent =>
      ofDecimal negative (ofDigits (whole ++ places)) (exponent - places.length)

/-- Reads a decimal. -/
def read (cs : List Char) : Option Double :=
  let (negative, rest) := dropSign cs
  readUnsigned negative rest

def isFinite : Double → Bool
  | .finite .. => true
  | _ => false

/-! ## Showing -/

/-- How far the middle between `mantissa * 2 ^ exponent` and the number below it lies from it,
in quarters of its last bit. -/
def below (mantissa : Nat) (exponent : Int) : Nat :=
  if mantissa = Word.significandStart ∧ minExponent < exponent then 1 else 2

/-- Whether a fraction is rounded to `mantissa * 2 ^ exponent`. The ends of the range are,
where the mantissa is even. -/
def rounds (mantissa : Nat) (exponent : Int) (f : Fraction) : Bool :=
  let (num, den) := scale (f.1 * 4, f.2) 2 (-exponent)
  let low := (4 * mantissa - below mantissa exponent) * den
  let high := (4 * mantissa + 2) * den
  if mantissa % 2 = 0 then low ≤ num && num ≤ high else low < num && num < high

/-- The digits of the two neighbours of a fraction among the multiples of `10 ^ place`, the
nearer one first. -/
def neighbours (f : Fraction) (place : Int) : List Nat :=
  let (num, den) := scale f 10 (-place)
  let low := num / den
  if 2 * (num % den) < den then [low, low + 1] else [low + 1, low]

/-- The decimal with the fewest digits that is rounded to `mantissa * 2 ^ exponent`, as its
digits and the place of the last one: the first of the places, from the left, where there is
one. -/
def shortest (mantissa : Nat) (exponent : Int) : List Int → Nat × Int
  | [] => (0, 0)
  | place :: places =>
    let found := (neighbours (scale (mantissa, 1) 2 exponent) place).find? fun digits =>
      rounds mantissa exponent (scale (digits, 1) 10 place)
    match found with
    | some digits => (digits, place)
    | none => shortest mantissa exponent places

/-- The places where the last digit may be, from the left: the first is one that the number
does not reach, and seventeen digits are always enough. -/
def places (mantissa : Nat) (exponent : Int) : List Int :=
  let (num, den) := scale (mantissa, 1) 2 exponent
  let first : Int := (digitCount num : Int) - (digitCount den : Int) + 1
  (List.range 20).map fun i => first - (i : Nat)

/-- Digits with the last one at `place`, without an exponent. -/
def positional (digits : Nat) (place : Int) : String :=
  let cs := Nat.toDigits 10 digits
  if 0 ≤ place then String.ofList (cs ++ List.replicate place.toNat '0')
  else
    let fraction := (-place).toNat
    let padded := List.replicate (fraction + 1 - cs.length) '0' ++ cs
    String.ofList (padded.take (padded.length - fraction) ++ '.' ::
      padded.drop (padded.length - fraction))

/-- How a number is shown. -/
def display : Double → String
  | .nan => "NaN"
  | .infinite negative => if negative then "-inf" else "inf"
  | .finite negative mantissa exponent =>
    let sign := if negative then "-" else ""
    if mantissa = 0 then sign ++ "0"
    else
      let (digits, place) := shortest mantissa exponent (places mantissa exponent)
      sign ++ positional digits place

end Double

end Intake
