import Intake.Bytes

/-!
Tokens: the words of header fields and media types.
-/

namespace Intake.FormData

/-- Octets other than letters and digits that a token may hold:
``!#$%&'*+-.^_`|~``. -/
def tokenMarks : Bytes :=
  [0x21, 0x23, 0x24, 0x25, 0x26, 0x27, 0x2A, 0x2B, 0x2D, 0x2E, 0x5E, 0x5F, 0x60, 0x7C, 0x7E]

/-- Whether an octet is an ASCII capital letter. -/
def isUpper (b : UInt8) : Bool :=
  0x41 ≤ b && b ≤ 0x5A

/-- Whether an octet may stand in a token. -/
def isToken (b : UInt8) : Bool :=
  isUpper b || (0x61 ≤ b && b ≤ 0x7A) || (0x30 ≤ b && b ≤ 0x39) || tokenMarks.contains b

/-- An octet with a capital letter made small. -/
def lower (b : UInt8) : UInt8 :=
  if isUpper b then b + 0x20 else b

/-- Whether a run of octets is the given lower-case word, in any case. -/
def isWord (word : String) (run : Bytes) : Bool :=
  run.map lower == Bytes.ofString word

end Intake.FormData
