import Intake.FormData.Fault
import Intake.FormData.Token
import Intake.Headers
import Intake.Text.Utf8

/-!
The header block of a part: lines of a name, a colon and a value, closed by an empty line.

A line ends with a line feed, with or without a carriage return before it. No line is
folded, no blank stands before a colon, and a block has at most 32 lines. A name has at most
65535 octets, which counts only in a block that can be read.
-/

namespace Intake.FormData.HeaderBlock

/-- The most fields that a block may have. -/
def maxFields : Nat := 32

/-- The most octets that a name may have. -/
def maxNameLength : Nat := 65535

/-- Whether an octet may stand in a value. -/
def isValue (b : UInt8) : Bool :=
  b == Bytes.tab || (0x20 ≤ b && b != 0x7F)

/-- Whether an octet is a blank or a tab. -/
def isPadding (b : UInt8) : Bool :=
  b == Bytes.blank || b == Bytes.tab

/-- What follows a line end. -/
def afterLineEnd : Bytes → Except Fault Bytes
  | [] => .error .incompleteHead
  | b :: rest =>
    if b = Bytes.lf then .ok rest
    else if b = Bytes.cr then
      match rest with
      | [] => .error .incompleteHead
      | c :: rest => if c = Bytes.lf then .ok rest else .error .unreadableHead
    else .error .unreadableHead

/-- A value without the padding behind it. -/
def trimPadding (value : Bytes) : Bytes :=
  (value.reverse.dropWhile isPadding).reverse

/-- One field, and what follows its line. -/
def field (block : Bytes) : Except Fault ((String × Bytes) × Bytes) :=
  let name := block.takeWhile isToken
  match block.dropWhile isToken with
  | [] => .error .incompleteHead
  | b :: rest =>
    if b = Bytes.colon ∧ name ≠ [] then
      let padded := rest.dropWhile isPadding
      match afterLineEnd (padded.dropWhile isValue) with
      | .error fault => .error fault
      | .ok after =>
        .ok ((Utf8.decodeLossy name, trimPadding (padded.takeWhile isValue)), after)
    else .error .unreadableHead

/-- The fields of a block, when `room` more of them are allowed. What follows the empty line
does not matter. -/
def fields (room : Nat) (block : Bytes) : Except Fault Headers :=
  match afterLineEnd block with
  | .ok _ => .ok []
  | .error _ =>
    if block = [] ∨ block = [Bytes.cr] then .error .incompleteHead
    else
      match room with
      | 0 => .error .unreadableHead
      | room + 1 =>
        match field block with
        | .error fault => .error fault
        | .ok (line, rest) => (fields room rest).map (line :: ·)

/-- Header fields none of whose names is too long. -/
def withinLength (headers : Headers) : Except Fault Headers :=
  match headers.find? fun (name, _) => maxNameLength < name.utf8ByteSize with
  | some (name, _) => .error (.longHeaderName name)
  | none => .ok headers

/-- Reads a header block. -/
def parse (block : Bytes) : Except Fault Headers :=
  fields maxFields block >>= withinLength

end Intake.FormData.HeaderBlock
