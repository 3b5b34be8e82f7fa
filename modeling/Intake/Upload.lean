import Intake.Artifact
import Intake.DeclaredLength
import Intake.FormData.Form
import Intake.FormData.MediaType

/-!
Receiving an upload: one field of a form, copied into a bounded buffer.

The declared length is checked first, then the form is read part by part. Parts before
the wanted one may be as long as the memory cap, the wanted one as long as the limit, and
whatever follows it does not matter. Nothing here touches a file.
-/

namespace Intake

open FormData (Body Fault Form PartHead)

variable [Memory]

/-! ## Failures of reading -/

namespace UploadDescriptor

/-- What is logged when reading the form fails. -/
def noticeOfFault (d : UploadDescriptor) : Fault → List Event
  | .streamFailed message =>
    [{ level := .warn, message := "Upload stream failed mid-transfer",
       fields := [("field", .text d.field), ("error", .text message)] }]
  | .incompleteStream | .incompleteField _ =>
    [{ level := .warn, message := "Upload stream ended before the multipart body was complete",
       fields := [("field", .text d.field)] }]
  | _ => []

end UploadDescriptor

/-- How an upload fails when reading the form does. There is no limit to a form as a whole, so no
fault tells of one. -/
def Failure.ofFault : Fault → Failure
  | .streamFailed message => .streamRead message
  | fault@.incompleteStream | fault@(.incompleteField _) => .streamRead fault.message
  | fault@(.fieldTooLarge ..) => .payloadTooLarge .streaming fault.message
  | fault => .multipartParse fault.message

namespace UploadDescriptor

/-- Gives an upload up because of a fault of the form. -/
def abort {α : Type} (d : UploadDescriptor) (fault : Fault) : Traced α :=
  ⟨d.noticeOfFault fault, .error (.ofFault fault)⟩

/-! ## The wanted part -/

/-- Gives an upload up because it is larger than its limit. -/
def refuse {α : Type} (d : UploadDescriptor) (overflow : Overflow) : Traced α := do
  .log { level := .warn, message := "Upload size limit exceeded, aborting",
         fields := [("field", .text d.field), ("total_written", .count overflow.attempted),
           ("limit", .count d.limit)] }
  .fail <| .payloadTooLarge .streaming <|
    "Uploaded file was too large: more than " ++ ByteSize.describe overflow.attempted ++
      " received (limit is " ++ ByteSize.describe d.limit ++ ")"

/-- Copies the frames of the wanted part into `buffer`, in pieces of `chunkSize`, and ends as
the part does. -/
def copy (d : UploadDescriptor) (chunkSize : Nat) (head : PartHead) (buffer : BoundedBuffer)
    (frames : List Bytes) (ending : Option Fault) : Traced Artifact :=
  let cut := frames.flatMap (pieces chunkSize)
  match buffer.extendAll? cut with
  | .error overflow => d.refuse overflow
  | .ok full =>
    match ending with
    | some fault => d.abort fault
    | none => do
      .log { level := .debug, message := "Completed upload stream copy",
             fields := [("field", .text d.field), ("total_chunks", .count cut.length),
               ("total_bytes", .count full.size)] }
      return {
        bytes := full.contents
        filename := head.filename.getD ""
        mimeType := head.contentType
      }

/-- Receives the wanted part. -/
def receivePart (d : UploadDescriptor) (chunkSize : Nat) (head : PartHead) (frames : List Bytes)
    (ending : Option Fault) : Traced Artifact :=
  match BoundedBuffer.reserve d.limit with
  | .error fault =>
    .fail <| .internal <|
      "reserve an upload buffer of " ++ ByteSize.describe d.limit ++ ": " ++ fault.message
  | .ok buffer => do
    .log { level := .debug, message := "Starting upload stream copy",
           fields := [("field", .text d.field), ("filename", .text (head.filename.getD "")),
             ("limit", .count d.limit)] }
    d.copy chunkSize head buffer frames ending

/-! ## The form -/

/-- Whether a part is the wanted one. -/
def wants (d : UploadDescriptor) (head : PartHead) : Bool :=
  head.name == some d.field

/-- Whether the data of a part that is not wanted are longer than they may be. -/
def exceedsCap (d : UploadDescriptor) (frames : List Bytes) : Bool :=
  d.memoryCap < Bytes.total frames

/-- Receives the first part with the wanted name. -/
def receiveField (d : UploadDescriptor) (chunkSize : Nat) : Form → Traced Artifact
  | .closed => do
    .log { level := .debug, message := "Form field not present in multipart body",
           fields := [("field", .text d.field)] }
    .fail (.formFieldMissing d.field)
  | .fault fault => d.abort fault
  | .part head frames rest =>
    if d.wants head then d.receivePart chunkSize head frames none
    else if d.exceedsCap frames then d.abort (.fieldTooLarge head.name d.memoryCap)
    else d.receiveField chunkSize rest
  | .broken head frames fault =>
    if d.wants head then d.receivePart chunkSize head frames (some fault)
    else if d.exceedsCap frames then d.abort (.fieldTooLarge head.name d.memoryCap)
    else d.abort fault

/-- Receives the wanted field of a body. -/
def ingest (d : UploadDescriptor) (headers : Headers) (body : Body) (chunkSize : Nat) :
    Traced Artifact :=
  match FormData.boundary headers with
  | .error fault => .fail (.multipartParse fault.message)
  | .ok boundary => d.receiveField chunkSize (Form.read boundary body)

end UploadDescriptor

/-! ## Uploads -/

/-- A received field, and the directory that its saves start from. -/
structure Upload where
  artifact : Artifact
  baseDir : FilePath
deriving DecidableEq, Repr

namespace Upload

/-- What an upload shows itself as. -/
def display (_ : Upload) : String :=
  "Uploaded file"

/-- Receives the form field `field` of a request. -/
def receive (headers : Headers) (body : Body) (baseDir : FilePath) (field : String)
    (settings : UploadSettings) : Traced Upload :=
  if field = "" then .fail (.badRequest "form field name expected")
  else do
    let declared := DeclaredLength.ofHeaders headers
    let descriptor := UploadDescriptor.ofSettings declared field settings
    .logAll declared.notice
    descriptor.precheck settings.framingOverhead
    let artifact ← descriptor.ingest headers body settings.chunkSize
    .log { level := .info, message := "Upload received",
           fields := [("field", .text field), ("filename", .text artifact.filename),
             ("bytes", .count artifact.size)] }
    return { artifact, baseDir }

/-- What is told of a failure to those who hold uploads without looking at failures. -/
def notice (field : String) : Except Failure Upload → List Event
  | .ok _ => []
  | .error failure =>
    [{ level := .error, message := "Upload failed",
       fields := [("field", .text field), ("error", .text failure.message)] }]

/-- Receives a field, under a ceiling that `limitMib` may replace. -/
def receiveWith (headers : Headers) (body : Body) (baseDir : FilePath) (field : String)
    (limitMib : Option Nat) (limits : FileLimits) : Traced Upload :=
  (receive headers body baseDir field (limits.settings limitMib)).noting (notice field)

/-- An upload and no message, or no upload and a message. -/
def paired : Except Failure Upload → Option Upload × String
  | .ok upload => (some upload, "")
  | .error failure => (none, failure.message)

end Upload

end Intake
