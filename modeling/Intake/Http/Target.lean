import Intake.Text.Utf8

/-!
Targets of requests: a path, and a query behind the first question mark.

In front of the path a target may name the scheme and the host that it is meant for. Octets
are escaped as a percent sign and two hexadecimal digits; a percent sign that no two
digits follow stands for itself.
-/

namespace Intake.Http

/-- Percent sign. -/
def percent : UInt8 := 0x25

/-- Plus sign. -/
def plus : UInt8 := 0x2B

/-- Ampersand. -/
def ampersand : UInt8 := 0x26

/-- Question mark. -/
def questionMark : UInt8 := 0x3F

/-- Number sign. -/
def numberSign : UInt8 := 0x23

/-- The value of a hexadecimal digit. -/
def hexDigit? (b : UInt8) : Option UInt8 :=
  if 0x30 ≤ b && b ≤ 0x39 then some (b - 0x30)
  else if 0x41 ≤ b && b ≤ 0x46 then some (b - 0x41 + 10)
  else if 0x61 ≤ b && b ≤ 0x66 then some (b - 0x61 + 10)
  else none

/-- The octets that a run stands for. -/
def percentDecode : Bytes → Bytes
  | [] => []
  | [b] => [b]
  | [b, c] => [b, c]
  | b :: c :: d :: rest =>
    match b == percent, hexDigit? c, hexDigit? d with
    | true, some high, some low => (high * 16 + low) :: percentDecode rest
    | _, _, _ => b :: percentDecode (c :: d :: rest)

/-- What precedes the first `separator`, and what follows it; nothing follows if it is not
there. -/
def splitFirst (separator : UInt8) (run : Bytes) : Bytes × Bytes :=
  (run.takeWhile (· != separator), (run.dropWhile (· != separator)).tail)

/-- Whether an octet ends the name of a host. -/
def endsHost (b : UInt8) : Bool :=
  b == Bytes.slash || b == questionMark || b == numberSign

/-- What follows the scheme and the host of a target; nothing, if it names a host alone. -/
def afterHost (target : Bytes) : Bytes :=
  if target.head? = some Bytes.slash then target
  else
    match splitFirst Bytes.colon target with
    | (_, b :: c :: rest) =>
      if b = Bytes.slash ∧ c = Bytes.slash then rest.dropWhile fun b => !endsHost b else []
    | _ => []

/-- The part of a target that names a resource, without a fragment. -/
def resource (target : Bytes) : Bytes :=
  (splitFirst numberSign (afterHost target)).1

/-- The path of a target, still escaped. -/
def path (target : Bytes) : Bytes :=
  (splitFirst questionMark (resource target)).1

/-- The query of a target, still escaped. -/
def query (target : Bytes) : Bytes :=
  (splitFirst questionMark (resource target)).2

/-- The text that a part of a query stands for. -/
def formDecode (run : Bytes) : String :=
  Utf8.decodeLossy (percentDecode (run.map fun b => if b = plus then Bytes.blank else b))

/-- The keys and values of a query, in order. -/
def pairs (query : Bytes) : List (String × String) :=
  ((Bytes.splitAll ampersand query).filter (· ≠ [])).map fun piece =>
    let (key, value) := splitFirst Bytes.equals piece
    (formDecode key, formDecode value)

end Intake.Http
