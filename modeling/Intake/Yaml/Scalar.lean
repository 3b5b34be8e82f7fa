import Intake.Setting
import Intake.Text.Base

/-!
What the plain scalars of a YAML document stand for.

A scalar without quotes is null, a truth value or a number when it is spelled like one, and
a text otherwise. Whole numbers have up to 128 bits; those with a superfluous leading zero
are texts.
-/

namespace Intake.Yaml

/-! ## Whole numbers -/

/-- Whether digits have a zero in front that they do not need. -/
def hasSpareZero : List Char → Bool
  | '0' :: digits => !digits.isEmpty && digits.all Char.isDigit
  | _ => false

/-- Reads a number without its sign: in base sixteen, eight or two behind `0x`, `0o` or `0b`,
else in base ten. -/
def readMagnitude : List Char → Option Nat
  | '0' :: 'x' :: digits => Text.readBase 16 digits
  | '0' :: 'o' :: digits => Text.readBase 8 digits
  | '0' :: 'b' :: digits => Text.readBase 2 digits
  | digits => if hasSpareZero digits then none else Text.readBase 10 digits

def readUnsigned (digits : List Char) : Option Scalar :=
  match readMagnitude digits with
  | some n => if n < Word.limit * Word.limit then some (.unsigned n) else none
  | none => none

def readNegative (digits : List Char) : Option Scalar :=
  match readMagnitude digits with
  | some n => if n ≤ Word.limit * Word.signedLimit then some (.signed (-n)) else none
  | none => none

/-- Reads a whole number. -/
def readWhole : List Char → Option Scalar
  | '-' :: digits => readNegative digits
  | '+' :: digits => readUnsigned digits
  | digits => readUnsigned digits

/-! ## Other numbers -/

/-- Reads a decimal that is within reach; those with a spare zero and nothing but digits are
none. -/
def readFinite (cs : List Char) : Option Double :=
  if hasSpareZero (Double.dropSign cs).2 then none
  else (Double.read cs).filter Double.isFinite

/-- Reads a decimal, an infinity or no number. -/
def readDouble (s : String) : Option Double :=
  if s ∈ [".inf", ".Inf", ".INF", "+.inf", "+.Inf", "+.INF"] then some (.infinite false)
  else if s ∈ ["-.inf", "-.Inf", "-.INF"] then some (.infinite true)
  else if s ∈ [".nan", ".NaN", ".NAN"] then some .nan
  else readFinite s.toList

/-! ## Scalars -/

/-- What a plain scalar stands for. -/
def scalarOf (s : String) : Scalar :=
  if s ∈ ["", "~", "null", "Null", "NULL"] then .null
  else if s ∈ ["true", "True", "TRUE"] then .bool true
  else if s ∈ ["false", "False", "FALSE"] then .bool false
  else
    match readWhole s.toList, readDouble s with
    | some whole, _ => whole
    | none, some d => .double d
    | none, none => .text s

end Intake.Yaml
