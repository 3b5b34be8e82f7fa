import Intake.FormData.Form
import Intake.Headers

/-!
Writing forms: the body that carries given parts, and the header that announces it.

A text part is named; a file part has a file name too, and may have a content type. The
content of a part is written as it is, so it must not hold the delimiter that closes it.
-/

namespace Intake.FormData

/-- What kind of part is written. -/
inductive PartKind where
  | text
  | file (filename : String) (contentType : Option String)
deriving DecidableEq, Repr

/-- A part of a form that is to be written. -/
structure Part where
  name : String
  kind : PartKind
  content : Bytes
deriving DecidableEq, Repr

namespace PartKind

/-- The file name of a part, if it has one. -/
def filename? : PartKind → Option String
  | text => none
  | file filename _ => some filename

/-- The content type of a part, empty if it has none. -/
def contentType : PartKind → String
  | text => ""
  | file _ contentType => contentType.getD ""

/-- What stands behind the name of a part in its header block. -/
def headerTail : PartKind → String
  | text => ""
  | file filename none => "; filename=\"" ++ filename ++ "\""
  | file filename (some contentType) =>
    "; filename=\"" ++ filename ++ "\"\r\nContent-Type: " ++ contentType

end PartKind

namespace Part

/-- What a reader is to learn of a part. -/
def head (p : Part) : PartHead where
  name := some p.name
  filename := p.kind.filename?
  contentType := p.kind.contentType

/-- The header block of a part, without the empty line that closes it. -/
def headerText (p : Part) : String :=
  "Content-Disposition: form-data; name=\"" ++ p.name ++ "\"" ++ p.kind.headerTail

/-- A part, from its delimiter to the line end behind its content. -/
def encode (boundary : Bytes) (p : Part) : Bytes :=
  delimiter boundary ++ Bytes.crlf ++ Bytes.ofString p.headerText ++ blankLine ++ p.content ++
    Bytes.crlf

end Part

/-- What closes a form. -/
def closingDelimiter (boundary : Bytes) : Bytes :=
  delimiter boundary ++ [Bytes.hyphen, Bytes.hyphen] ++ Bytes.crlf

/-- The body that carries parts. -/
def encode (boundary : Bytes) (parts : List Part) : Bytes :=
  parts.flatMap (Part.encode boundary) ++ closingDelimiter boundary

/-- The header that announces a form. -/
def announcement (boundary : String) : String × Bytes :=
  ("content-type", Bytes.ofString ("multipart/form-data; boundary=" ++ boundary))

end Intake.FormData
