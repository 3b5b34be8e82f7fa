import Intake.Upload.Saving

/-!
Sessions: several uploads held at the same time, and one file system.

Each upload is held under a label. An operation works on the upload under its label, and
leaves everything as it is when there is none. With each save stands how its write breaks off, if
it does; of saves at once it is told for each by its number.
-/

namespace Intake

/-- The uploads that are held, each under its label, and the file system that they are saved
to. -/
structure Session where
  fileSystem : FileSystem
  uploads : List (String × Upload)

/-- What can be done with an upload that is held. -/
inductive Action where
  | drop
  | save (name : Option String) (broken : Option BrokenWrite := none)
  | saveIn (directory : String) (broken : Option BrokenWrite := none)
  | trySave (name : Option String) (broken : Option BrokenWrite := none)
  | trySaveIn (directory : String) (broken : Option BrokenWrite := none)
  /-- Saves the artifact to a full path. -/
  | persist (path : FilePath) (broken : Option BrokenWrite := none)
  /-- Saves the upload several times at once. -/
  | race (name : Option String) (count : Nat) (broken : Nat → Option BrokenWrite := fun _ => none)
  /-- Drops a save right after it created its file. -/
  | cancel (name : Option String)

/-- What can be done under a label. -/
inductive Operation where
  /-- Receives an upload, and holds it in place of another. -/
  | receive (headers : Headers) (body : FormData.Body) (baseDir : FilePath) (field : String)
      (settings : UploadSettings)
  /-- Does something with the upload that is held. -/
  | act (action : Action)

/-- What an operation comes to. -/
inductive Reply where
  | received (upload : Upload)
  | failed (failure : Failure)
  /-- Nothing is held under the label. -/
  | noUpload
  | dropped (held : Bool)
  | saved (success : Bool)
  | stored (path : FilePath)
  | raced (results : List (Except Failure FilePath))
  | cancelled (created : Bool)

/-- What a save that tells its path comes to. -/
def Reply.ofStored : Except Failure FilePath → Reply
  | .ok path => .stored path
  | .error failure => .failed failure

namespace Session

/-- The upload under a label. -/
def upload? (s : Session) (label : String) : Option Upload :=
  s.uploads.lookup label

/-- Nothing is held under a label any more. -/
def release (s : Session) (label : String) : Session :=
  { s with uploads := s.uploads.filter fun held => held.1 != label }

/-- An upload is held under a label, in place of another. -/
def hold (s : Session) (label : String) (upload : Upload) : Session :=
  { s.release label with uploads := (label, upload) :: (s.release label).uploads }

/-- Does something with the upload `u` that is held under a label. -/
def act (s : Session) (label : String) (u : Upload) : Action → Session × List Event × Reply
  | .drop => (s.release label, [], .dropped true)
  | .save name broken =>
    let (after, events, success) := u.save s.fileSystem name broken
    ({ s with fileSystem := after }, events, .saved success)
  | .saveIn directory broken =>
    let (after, events, success) := u.saveIn s.fileSystem directory broken
    ({ s with fileSystem := after }, events, .saved success)
  | .trySave name broken =>
    let (after, saved) := u.trySave s.fileSystem name broken
    ({ s with fileSystem := after }, saved.events, .ofStored saved.result)
  | .trySaveIn directory broken =>
    let (after, saved) := u.trySaveIn s.fileSystem directory broken
    ({ s with fileSystem := after }, saved.events, .ofStored saved.result)
  | .persist path broken =>
    let (after, saved) := Intake.persist s.fileSystem u.artifact path broken
    ({ s with fileSystem := after }, saved.events, .ofStored (saved.result.map fun () => path))
  | .race name count broken =>
    let (after, events, results) := u.race s.fileSystem (Upload.named name) count broken
    ({ s with fileSystem := after }, events, .raced results)
  | .cancel name =>
    let (after, events, created) := u.cancelSave s.fileSystem (Upload.named name)
    ({ s with fileSystem := after }, events, .cancelled created)

/-- Does an operation under a label. -/
def perform [Memory] (s : Session) (label : String) : Operation → Session × List Event × Reply
  | .receive headers body baseDir field settings =>
    let received := Upload.receive headers body baseDir field settings
    match received.result with
    | .ok upload => (s.hold label upload, received.events, .received upload)
    | .error failure => (s, received.events, .failed failure)
  | .act action =>
    match s.upload? label, action with
    | some upload, action => s.act label upload action
    | none, .drop => (s, [], .dropped false)
    | none, _ => (s, [], .noUpload)

end Session

end Intake
