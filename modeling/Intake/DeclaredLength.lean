import Intake.Headers
import Intake.Log
import Intake.Settings
import Intake.Text.Blank
import Intake.Text.Numeral

/-!
The length that a client declares for a request, and the early check that rests on it.

A declared length is a hint: it can have an upload refused before anything of it is read,
but it never makes room for one. One that is absent or no number is passed over.
-/

namespace Intake

/-- The length of the request as its headers have it. -/
inductive DeclaredLength where
  | known (bytes : Nat)
  | absent
  /-- There is a value, but it is no number. -/
  | unparsable (raw : String)
deriving DecidableEq, Repr

namespace DeclaredLength

/-- Reads the value of a length header; blanks around the number do not matter. -/
def ofValue (raw : String) : DeclaredLength :=
  match Text.readNumeral (Text.trim raw) with
  | .ok bytes => .known bytes
  | .error _ => .unparsable raw

/-- The length that the first length header declares. -/
def ofHeaders (headers : Headers) : DeclaredLength :=
  match headers.first? "content-length" with
  | none => .absent
  | some value => ofValue (Utf8.decodeLossy value)

/-- The length, if it is known. -/
def bytes? : DeclaredLength → Option Nat
  | known bytes => some bytes
  | _ => none

/-- What is logged when a length is read. -/
def notice : DeclaredLength → List Event
  | unparsable raw =>
    [{ level := .warn, message := "Invalid Content-Length, skipping size precheck",
       fields := [("content_length", .text raw)] }]
  | _ => []

end DeclaredLength

/-- What is known of an upload before its body is read. -/
structure UploadDescriptor where
  declared : DeclaredLength
  field : String
  limit : Nat
  memoryCap : Nat
deriving DecidableEq, Repr

namespace UploadDescriptor

def ofSettings (declared : DeclaredLength) (field : String) (settings : UploadSettings) :
    UploadDescriptor where
  declared
  field
  limit := settings.limit
  memoryCap := settings.memoryCap

/-- Refuses an upload whose declared length is above the limit even without the allowance
for framing. -/
def precheck (descriptor : UploadDescriptor) (framingOverhead : Nat) : Traced Unit :=
  match descriptor.declared.bytes? with
  | none =>
    .log { level := .debug, message := "No usable Content-Length, relying on streaming ceiling",
           fields := [("field", .text descriptor.field)] }
  | some declared =>
    if descriptor.limit < declared - framingOverhead then do
      .log { level := .warn,
             message := "Declared length exceeds upload limit, rejecting before parse",
             fields := [("field", .text descriptor.field), ("declared_length", .count declared),
               ("limit", .count descriptor.limit)] }
      .fail <| .payloadTooLarge .precheck <|
        "Uploaded file was too large: " ++ ByteSize.describe (declared - framingOverhead) ++
          " according to Content-Length (current limit is " ++
          ByteSize.describe descriptor.limit ++ ")"
    else pure ()

end UploadDescriptor

end Intake
