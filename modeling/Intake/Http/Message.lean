import Intake.FormData.Body
import Intake.Headers
import Intake.Json
import Intake.Log

/-!
Requests and responses.
-/

namespace Intake.Http

/-- A request. Its target is the path, and the query behind a question mark. -/
structure Request where
  method : String
  target : Bytes
  headers : Headers
  body : FormData.Body

/-- What a response holds. -/
inductive Content where
  | text (s : String)
  | json (value : Json)
deriving Repr, Inhabited

structure Response where
  status : Nat
  contentType : Option String := none
  /-- The methods that would have been allowed, where the request's was not. -/
  allow : Option String := none
  content : Content := .text ""
deriving Repr, Inhabited

namespace Response

def plainText (status : Nat) (s : String) : Response where
  status
  contentType := some "text/plain; charset=utf-8"
  content := .text s

def json (status : Nat) (value : Json) : Response where
  status
  contentType := some "application/json"
  content := .json value

/-- There is nothing at the path of the request. -/
def notFound : Response where
  status := 404

/-- The path of the request knows other methods only. -/
def methodNotAllowed (allow : String) : Response where
  status := 405
  allow := some allow

/-- A response without its content. -/
def withoutContent (r : Response) : Response :=
  { r with content := .text "" }

/-- What is logged of a failure that a request is answered with. -/
def notice (failure : Failure) : Event :=
  match failure with
  | .io .. | .config _ | .internal _ =>
    { level := .error, message := "Internal service error: " ++ failure.message }
  | .payloadTooLarge .. | .streamRead _ =>
    { level := .warn, message := "Upload rejected: " ++ failure.message }
  | .destinationExists _ =>
    { level := .warn, message := "Conflict error: " ++ failure.message }
  | .multipartParse _ | .formFieldMissing _ | .invalidDestination _ | .badRequest _ =>
    { level := .debug, message := "Client error: " ++ failure.message }

/-- The answer to a request that failed. -/
def ofFailure (failure : Failure) : Response :=
  plainText failure.status failure.userMessage

/-- The answer to a request, and the events that answering it logs. -/
def ofTraced (t : Traced Response) : List Event × Response :=
  match t.result with
  | .ok response => (t.events, response)
  | .error failure => (t.events ++ [notice failure], ofFailure failure)

end Response

end Intake.Http
