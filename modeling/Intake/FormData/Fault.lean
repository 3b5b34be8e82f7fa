import Intake.ByteSize
import Intake.Text.Quoted

/-!
What can be wrong with a form: with its announcement in the request headers, with its
octets, or with the stream that delivers them.
-/

namespace Intake.FormData

inductive Fault where
  /-- No content type was given, or one of other than printable characters. -/
  | noContentType
  | unreadableContentType
  | notFormData
  | noBoundary
  /-- The header block of a part cannot be read. -/
  | unreadableHead
  /-- The header block of a part breaks off. -/
  | incompleteHead
  /-- The name of a header field of a part is too long. -/
  | longHeaderName (name : String)
  /-- The form breaks off between its parts. -/
  | incompleteStream
  /-- The form breaks off within the data of a part. -/
  | incompleteField (name : Option String)
  /-- The data of a part is longer than it may be. -/
  | fieldTooLarge (name : Option String) (limit : Nat)
  /-- The stream failed, for the reason it gave. -/
  | streamFailed (message : String)
deriving DecidableEq, Repr

/-- What is told of a fault. -/
def Fault.message : Fault → String
  | noContentType => "missing Content-Type header"
  | unreadableContentType => "failed to decode Content-Type"
  | notFormData => "Content-Type is not multipart/form-data"
  | noBoundary => "multipart boundary not found in Content-Type"
  | unreadableHead => "failed to read headers"
  | incompleteHead => "failed to read field complete headers"
  | longHeaderName name => "failed to decode field's raw header name: " ++ Text.quoted name
  | incompleteStream => "incomplete multipart stream"
  | incompleteField name =>
    "field " ++ Text.quoted (name.getD "<unknown>") ++ " received with incomplete data"
  | fieldTooLarge name limit =>
    "Form field '" ++ name.getD "" ++ "' was too large (limit is " ++
      ByteSize.describe limit ++ ")"
  | streamFailed message => message

end Intake.FormData
