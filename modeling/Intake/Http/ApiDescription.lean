import Intake.Json

/-!
The description of the service that it serves itself.
-/

namespace Intake.Http.ApiDescription

/-! ## Schemas -/

def text : Json :=
  .object [("type", .string "string")]

/-- An unsigned number. -/
def count : Json :=
  .object [("type", .string "integer"), ("format", .string "int64"), ("minimum", .number 0)]

/-- A schema with a description. -/
def described (description : String) : Json → Json
  | .object fields => .object (("description", .string description) :: fields)
  | value => value

/-- The schema of the metadata of an upload. -/
def uploadResponse : Json :=
  .object [
    ("type", .string "object"),
    ("description", .string "Metadata of a received upload"),
    ("required", .array [.string "filename", .string "size", .string "mime_type"]),
    ("properties", .object [
      ("filename", described "Filename supplied by the client (may be empty)" text),
      ("size", described "Exact number of bytes received" count),
      ("mime_type", described "Content type declared for the form part (may be empty)" text),
      ("saved_as", described "Name of the stored file, when the upload was saved"
        (.object [("type", .array [.string "string", .string "null"])]))])]

/-! ## Operations -/

/-- A parameter of an operation. -/
def parameter (name place description : String) (required : Bool) (schema : Json) : Json :=
  .object [("name", .string name), ("in", .string place), ("description", .string description),
    ("required", .bool required), ("schema", schema)]

def field : Json :=
  parameter "field" "path" "Name of the form field holding the file" true text

def limitMib : Json :=
  parameter "limit_mib" "query"
    "Upload ceiling in MiB for this request. Can only lower the configured `max_file_size`."
    false count

def saveAs : Json :=
  parameter "save_as" "query"
    ("Store under this filename, relative to the script directory, instead of the\n" ++
      "client-supplied one")
    false text

def saveIn : Json :=
  parameter "save_in" "query"
    "Store in this directory, relative to the script directory, under the client-supplied\nfilename"
    false text

/-- A response without content that is described. -/
def response (status description : String) : String × Json :=
  (status, .object [("description", .string description)])

/-- A response that holds the metadata of an upload. -/
def success (status description : String) : String × Json :=
  (status, .object [
    ("description", .string description),
    ("content", .object [
      ("application/json", .object [
        ("schema", .object [("$ref", .string "#/components/schemas/UploadResponse")])])])])

def badRequest : String × Json :=
  response "400" "Invalid request, missing field or interrupted upload"

def conflict : String × Json :=
  response "409" "Destination already exists"

def tooLarge : String × Json :=
  response "413" "Payload too large"

def serverError : String × Json :=
  response "500" "Internal server error"

/-- An operation that receives a form. -/
def operation (id summary description : String) (parameters : List Json)
    (responses : List (String × Json)) : Json :=
  .object [
    ("tags", .array [.string "uploads"]),
    ("summary", .string summary),
    ("description", .string description),
    ("operationId", .string id),
    ("parameters", .array parameters),
    ("requestBody", .object [
      ("description", .string "Multipart form containing the named field"),
      ("content", .object [("multipart/form-data", .object [])])]),
    ("responses", .object responses)]

def uploadOperation : Json :=
  operation "upload_file" "Upload file"
    ("Receive the multipart form field `field` and store it under the script directory. " ++
      "Existing files are never overwritten. `save_as` and `save_in` must be relative to the " ++
      "script directory.")
    [field, limitMib, saveAs, saveIn]
    [success "201" "File stored", badRequest, conflict, tooLarge, serverError]

def inspectOperation : Json :=
  operation "inspect_upload" "Inspect upload"
    "Receive the multipart form field `field` and report its metadata without storing it."
    [field, limitMib]
    [success "200" "Upload metadata", badRequest, tooLarge, serverError]

/-! ## The document -/

def info : Json :=
  .object [
    ("title", .string "ingestctl"),
    ("description", .string
      ("Receives multipart uploads into size-capped memory buffers and stores them without " ++
        "overwriting existing files.")),
    ("license", .object [
      ("name", .string "MIT OR Apache-2.0"), ("identifier", .string "MIT OR Apache-2.0")]),
    ("version", .string "0.1.0")]

/-- The whole description. -/
def document : Json :=
  .object [
    ("openapi", .string "3.1.0"),
    ("info", info),
    ("paths", .object [
      ("/uploads/\x7bfield\x7d", .object [("post", uploadOperation)]),
      ("/uploads/\x7bfield\x7d/inspect", .object [("post", inspectOperation)])]),
    ("components", .object [("schemas", .object [("UploadResponse", uploadResponse)])]),
    ("tags", .array [
      .object [("name", .string "uploads"),
        ("description", .string "Bounded multipart upload ingestion")]])]

end Intake.Http.ApiDescription
