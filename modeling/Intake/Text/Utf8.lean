import Intake.Bytes

/-!
Texts encoded in UTF-8, as far as octets encode one.

`Utf8.lead` reads what a run of octets begins with: one encoded character, or the
longest start of one that nothing valid follows (a single octet where no character
can start). `decode?` accepts a run of characters only; `decodeLossy` shows U+FFFD
for every broken start.
-/

namespace Intake.Utf8

/-- What a run of octets begins with. -/
inductive Lead where
  /-- An encoded character. -/
  | char (c : Char)
  /-- Octets that start no character. -/
  | broken (octets : Bytes)
deriving DecidableEq, Repr

/-- The six bits that an octet of the form `10xxxxxx` carries. -/
def tailBits (b : UInt8) : Nat :=
  b.toNat % 0x40

/-- Whether an octet has the form `10xxxxxx`. -/
def isTail (b : UInt8) : Bool :=
  0x80 ≤ b && b ≤ 0xBF

/-- Whether `second` may follow `first` in a character of three octets. -/
def mayFollow3 (first second : UInt8) : Bool :=
  if first = 0xE0 then 0xA0 ≤ second && second ≤ 0xBF
  else if first = 0xED then 0x80 ≤ second && second ≤ 0x9F
  else isTail second

/-- Whether `second` may follow `first` in a character of four octets. -/
def mayFollow4 (first second : UInt8) : Bool :=
  if first = 0xF0 then 0x90 ≤ second && second ≤ 0xBF
  else if first = 0xF4 then 0x80 ≤ second && second ≤ 0x8F
  else isTail second

/-- What a run of octets begins with, and how many octets behind its first one that takes. -/
def lead (first : UInt8) (rest : Bytes) : Lead × Nat :=
  if first < 0x80 then (.char (Char.ofNat first.toNat), 0)
  else if 0xC2 ≤ first && first ≤ 0xDF then
    match rest with
    | b :: _ =>
      if isTail b then (.char (Char.ofNat (first.toNat % 0x20 * 0x40 + tailBits b)), 1)
      else (.broken [first], 0)
    | [] => (.broken [first], 0)
  else if 0xE0 ≤ first && first ≤ 0xEF then
    match rest with
    | b :: more =>
      if mayFollow3 first b then
        match more with
        | c :: _ =>
          if isTail c then
            (.char (Char.ofNat (first.toNat % 0x10 * 0x1000 + tailBits b * 0x40 + tailBits c)), 2)
          else (.broken [first, b], 1)
        | [] => (.broken [first, b], 1)
      else (.broken [first], 0)
    | [] => (.broken [first], 0)
  else if 0xF0 ≤ first && first ≤ 0xF4 then
    match rest with
    | b :: more =>
      if mayFollow4 first b then
        match more with
        | c :: last =>
          if isTail c then
            match last with
            | d :: _ =>
              if isTail d then
                (.char (Char.ofNat (first.toNat % 8 * 0x40000 + tailBits b * 0x1000 +
                  tailBits c * 0x40 + tailBits d)), 3)
              else (.broken [first, b, c], 2)
            | [] => (.broken [first, b, c], 2)
          else (.broken [first, b], 1)
        | [] => (.broken [first, b], 1)
      else (.broken [first], 0)
    | [] => (.broken [first], 0)
  else (.broken [first], 0)

/-- A run of octets as characters and broken starts, in order. -/
def leads : Bytes → List Lead
  | [] => []
  | first :: rest =>
    let next := lead first rest
    next.1 :: leads (rest.drop next.2)
termination_by run => run.length
decreasing_by
  simp only [List.length_drop, List.length_cons]
  omega

/-- The character that is read, if one is. -/
def Lead.char? : Lead → Option Char
  | .char c => some c
  | .broken _ => none

/-- The character that is shown: U+FFFD for a broken start. -/
def Lead.shown : Lead → Char
  | .char c => c
  | .broken _ => '\uFFFD'

/-- The text that a run of octets encodes, with U+FFFD for every broken start. -/
def decodeLossy (run : Bytes) : String :=
  String.ofList ((leads run).map Lead.shown)

/-- The text that a run of octets encodes, if it does. -/
def decode? (run : Bytes) : Option String :=
  ((leads run).mapM Lead.char?).map String.ofList

end Intake.Utf8
