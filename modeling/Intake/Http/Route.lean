import Intake.Http.Target

/-!
The paths that a server knows.

A path is matched as it is spelled: letter by letter, and with every slash.
-/

namespace Intake.Http

/-- A place that a path leads to. The name of a field is still escaped. -/
inductive Route where
  | health
  | apiDescription
  | upload (field : Bytes)
  | inspect (field : Bytes)
deriving DecidableEq, Repr

namespace Route

/-- The segments of the paths that are known. -/
def healthPath : List Bytes :=
  [[], Bytes.ofString "healthz"]

def apiDescriptionPath : List Bytes :=
  [[], Bytes.ofString "api-docs", Bytes.ofString "openapi.json"]

/-- Where a path leads. A field at the end of a path is not empty. -/
def ofPath? (path : Bytes) : Option Route :=
  let segments := Bytes.splitAll Bytes.slash path
  if segments = healthPath then some .health
  else if segments = apiDescriptionPath then some .apiDescription
  else
    match segments with
    | [[], top, field] =>
      if top = Bytes.ofString "uploads" ∧ field ≠ [] then some (.upload field) else none
    | [[], top, field, last] =>
      if top = Bytes.ofString "uploads" ∧ last = Bytes.ofString "inspect" then
        some (.inspect field)
      else none
    | _ => none

/-- The methods that a route knows. -/
def methods : Route → List String
  | health | apiDescription => ["GET", "HEAD"]
  | upload _ | inspect _ => ["POST"]

/-- The methods that a route knows, as a response lists them. -/
def allow (r : Route) : String :=
  String.intercalate "," r.methods

end Route

end Intake.Http
