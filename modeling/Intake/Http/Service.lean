import Intake.Config
import Intake.Http.ApiDescription
import Intake.Http.Message
import Intake.Http.Parameters
import Intake.Http.Route
import Intake.Upload.Saving

/-!
The service: what a request is answered, and what it does to the file system.

A target of a save that a request names must be relative and plain, so every save lands
beneath the script directory. A ceiling that a request names can only lower the configured
one. How the write of a save breaks off, if it does, is told with the request that saves.
-/

namespace Intake.Http

variable [Memory]

/-! ## Answers of uploads -/

/-- The metadata of an upload. -/
def metadata (artifact : Artifact) (savedAs : Option String) : Json :=
  .object <|
    [("filename", .string artifact.filename), ("size", .number artifact.size),
      ("mime_type", .string artifact.mimeType)] ++
    match savedAs with
    | some name => [("saved_as", .string name)]
    | none => []

/-- Receives the field of a request, under the configured ceiling or a lower one. -/
def receive (config : Config) (field : String) (limitMib : Option Nat) (request : Request) :
    Traced Upload :=
  Upload.receive request.headers request.body config.scriptDir field
    (config.files.cappedSettings limitMib)

/-- Accepts the target of a save if every part of it is a name. -/
def relativeTarget (parameter value : String) : Except Failure FilePath :=
  if (FilePath.ofString value).components.all FilePath.Component.isName then
    .ok (.ofString value)
  else .error (.badRequest ("'" ++ parameter ++ "' must be a relative path without '..'"))

/-- Where a save is to land by the parameters of a request. -/
def destination (parameters : UploadParameters) : Except Failure Destination :=
  match parameters.saveAs, parameters.saveIn with
  | some _, some _ => .error (.badRequest "Only one of 'save_as' and 'save_in' may be given")
  | some name, none => (relativeTarget "save_as" name).map fun _ => .renamed name
  | none, some directory => (relativeTarget "save_in" directory).map .inDirectory
  | none, none => .ok .ownName

/-- Accepts a destination that lies beneath the base directory of an upload. -/
def contained (u : Upload) (destination : Destination) : Except Failure Unit :=
  match u.locate destination with
  | .error failure => .error failure
  | .ok path =>
    if path.isWithin u.baseDir then .ok ()
    else .error (.badRequest "Save target must be inside the script directory")

/-- What is received for a request that stores, once its destination has been accepted. -/
def receiveFor (config : Config) (field : String) (parameters : UploadParameters)
    (request : Request) : Traced (Upload × Destination) := do
  let destination ← .lift (destination parameters)
  let upload ← receive config field parameters.limitMib request
  .lift (contained upload destination)
  return (upload, destination)

/-- Stores the field of a request. -/
def storeUpload (config : Config) (fs : FileSystem) (field : String)
    (parameters : UploadParameters) (request : Request) (broken : Option BrokenWrite := none) :
    FileSystem × Traced Response :=
  let received := receiveFor config field parameters request
  match received.result with
  | .error failure => (fs, ⟨received.events, .error failure⟩)
  | .ok (upload, destination) =>
    let (after, saved) := upload.saveTo fs destination broken
    (after, do
      .logAll received.events
      let path ← saved
      return .json 201 (metadata upload.artifact (path.fileName.map Utf8.decodeLossy)))

/-- Tells of the field of a request without storing it. -/
def inspectUpload (config : Config) (field : String) (limitMib : Option Nat) (request : Request) :
    Traced Response := do
  let upload ← receive config field limitMib request
  return .json 200 (metadata upload.artifact none)

/-! ## Requests -/

/-- The name of the field that a route names. -/
def fieldName (escaped : Bytes) : Except Response String :=
  match Utf8.decode? (percentDecode escaped) with
  | some name => .ok name
  | none => .error (.plainText 400 "Invalid URL: Invalid UTF-8 in `field`")

/-- The parameters of a request, or the answer that it gets in their place. -/
def parametersOr {α : Type} (parameters : Except QueryFault α) : Except Response α :=
  match parameters with
  | .ok a => .ok a
  | .error fault => .error (.plainText 400 fault.message)

/-- The field and parameters of a request that stores, or the answer it gets at once. -/
def uploadArguments (escaped : Bytes) (request : Request) :
    Except Response (String × UploadParameters) := do
  let field ← fieldName escaped
  let parameters ← parametersOr (UploadParameters.ofPairs (pairs (query request.target)))
  return (field, parameters)

/-- The field and limit of a request that inspects, or the answer it gets at once. -/
def inspectArguments (escaped : Bytes) (request : Request) :
    Except Response (String × Option Nat) := do
  let field ← fieldName escaped
  let limitMib ← parametersOr (UploadParameters.limitOfPairs (pairs (query request.target)))
  return (field, limitMib)

/-- What a route answers to a request whose method it knows. -/
def answer (config : Config) (fs : FileSystem) (request : Request) (broken : Option BrokenWrite) :
    Route → FileSystem × List Event × Response
  | .health => (fs, [], .plainText 200 "ok")
  | .apiDescription => (fs, [], .json 200 ApiDescription.document)
  | .upload escaped =>
    match uploadArguments escaped request with
    | .error response => (fs, [], response)
    | .ok (field, parameters) =>
      let (after, stored) := storeUpload config fs field parameters request broken
      (after, Response.ofTraced stored)
  | .inspect escaped =>
    match inspectArguments escaped request with
    | .error response => (fs, [], response)
    | .ok (field, limitMib) =>
      (fs, Response.ofTraced (inspectUpload config field limitMib request))

/-- Answers a request. -/
def handle (config : Config) (fs : FileSystem) (request : Request)
    (broken : Option BrokenWrite := none) : FileSystem × List Event × Response :=
  match Route.ofPath? (path request.target) with
  | none => (fs, [], .notFound)
  | some route =>
    if request.method ∈ route.methods then
      let (after, events, response) := answer config fs request broken route
      (after, events, if request.method = "HEAD" then response.withoutContent else response)
    else (fs, [], .methodNotAllowed route.allow)

/-- Answers requests one after another. -/
def handleAll (config : Config) (fs : FileSystem) :
    List (Request × Option BrokenWrite) → FileSystem × List Response
  | [] => (fs, [])
  | (request, broken) :: rest =>
    let (next, _, response) := handle config fs request broken
    let (last, responses) := handleAll config next rest
    (last, response :: responses)

end Intake.Http
