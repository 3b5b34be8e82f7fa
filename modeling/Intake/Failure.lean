import Intake.FilePath
import Intake.IoFault

/-!
Why an upload, a save or a start fails.

Every failure has a full message for the log, a status for a client, and a message for
the client that shows neither where files are stored nor what the file system said.
-/

namespace Intake

/-- Where a too large upload was caught. -/
inductive SizeCheck where
  /-- The declared length was too large already. -/
  | precheck
  /-- More arrived than may. -/
  | streaming
deriving DecidableEq, Repr

inductive Failure where
  | payloadTooLarge (check : SizeCheck) (message : String)
  | multipartParse (message : String)
  | formFieldMissing (field : String)
  | streamRead (message : String)
  | destinationExists (path : FilePath)
  | invalidDestination (message : String)
  | io (path : FilePath) (fault : IoFault)
  | badRequest (message : String)
  | config (message : String)
  | internal (operation : String)
deriving DecidableEq, Repr

namespace Failure

/-- The full message. -/
def message : Failure → String
  | payloadTooLarge _ message => message
  | multipartParse message => "Failed to parse multipart data: " ++ message
  | formFieldMissing field => "Missing required form field: '" ++ field ++ "'"
  | streamRead message => "Failed to read upload stream: " ++ message
  | destinationExists path => "File exists: " ++ path.display
  | invalidDestination message => "Invalid destination: " ++ message
  | io path fault => "I/O error on " ++ path.display ++ ": " ++ fault.message
  | badRequest message => message
  | config message => "Invalid configuration: " ++ message
  | internal operation => "Failed to " ++ operation

/-- The status that a client is answered with. -/
def status : Failure → Nat
  | payloadTooLarge .. => 413
  | multipartParse _ | formFieldMissing _ | streamRead _ => 400
  | invalidDestination _ | badRequest _ => 400
  | destinationExists _ => 409
  | io .. | config _ | internal _ => 500

/-- The message for a client: no path beyond a file's own name, and no detail of a failure
on this side. -/
def userMessage : Failure → String
  | destinationExists path =>
    match path.fileName with
    | some name => "File exists: " ++ Utf8.decodeLossy name
    | none => "File exists"
  | io .. => "Failed to store uploaded file"
  | config _ | internal _ => "Internal server error"
  | failure => failure.message

def isTooLarge : Failure → Bool
  | payloadTooLarge .. => true
  | _ => false

end Failure

end Intake
