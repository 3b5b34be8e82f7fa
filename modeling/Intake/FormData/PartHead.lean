import Intake.FormData.Disposition
import Intake.FormData.HeaderBlock

/-!
What the headers of a part say of it.
-/

namespace Intake.FormData

/-- The head of a part. -/
structure PartHead where
  name : Option String
  filename : Option String
  /-- The content type, empty if none was given. -/
  contentType : String
deriving DecidableEq, Repr

namespace PartHead

/-- A head from header fields; of fields with one name the last counts. -/
def ofHeaders (headers : Headers) : PartHead where
  name := (headers.last? "content-disposition").bind Attribute.name.value?
  filename := (headers.last? "content-disposition").bind Attribute.filename.value?
  contentType := Utf8.decodeLossy ((headers.last? "content-type").getD [])

/-- Reads the head of a part. -/
def parse (block : Bytes) : Except Fault PartHead :=
  (HeaderBlock.parse block).map ofHeaders

end PartHead

end Intake.FormData
