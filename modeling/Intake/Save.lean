import Intake.Artifact
import Intake.FileSystem.Walk
import Intake.Log

/-!
Saving an artifact to a path, never over anything that is there.

A save checks whether its destination exists, creates the file exclusively, writes it and
finishes. The check only makes the common conflict cheap; the exclusive create decides.
`Save.step` takes one of these steps, so that saves can be interleaved, and `persist` takes
them all: `run_eq_persist` says that a save which is let run is the whole.

Once there is a file, its write can break off (`BrokenWrite`), for want of room for instance. No
save decides whether that happens, so it is told with the save. A save whose write breaks off
removes its file, and so does one that is dropped once its file exists (`Save.abandon`).
-/

namespace Intake

/-! ## The steps -/

/-- Refuses a destination that exists. One that cannot be looked at is left to the create. -/
def checkDestination (fs : FileSystem) (path : FilePath) : Traced Unit :=
  match fs.tryExists path with
  | .ok true => do
    .log { level := .error, message := "Destination already exists",
           fields := [("path", .text path.display)] }
    .fail (.destinationExists path)
  | .ok false => pure ()
  | .error fault =>
    .log { level := .debug, message := "Could not check destination, relying on exclusive create",
           fields := [("path", .text path.display), ("error", .text fault.message)] }

/-- Creates the file of a save, and says where it lies. -/
def claimDestination (fs : FileSystem) (path : FilePath) : FileSystem × Traced Location :=
  match fs.createNew path with
  | .ok (created, place) => (created, pure place)
  | .error .alreadyExists =>
    (fs, do
      .log { level := .error, message := "Destination created concurrently",
             fields := [("path", .text path.display)] }
      .fail (.destinationExists path))
  | .error fault =>
    (fs, do
      .log { level := .error, message := "Error when creating upload destination",
             fields := [("path", .text path.display), ("error", .text fault.message)] }
      .fail (.io path fault))

/-- Removes the file of a save that will not be finished. -/
def removePartial (fs : FileSystem) (path : FilePath) : FileSystem × List Event :=
  let warning : Event :=
    { level := .warn, message := "Removing partially written upload",
      fields := [("path", .text path.display)] }
  match fs.removeFile path with
  | .ok without => (without, [warning])
  | .error fault =>
    (fs, [warning,
      { level := .error, message := "Failed to remove partial upload",
        fields := [("path", .text path.display), ("error", .text fault.message)] }])

/-- How a write breaks off, whether octets are not taken or the whole is not confirmed: what of the
artifact had been written, and the fault. -/
structure BrokenWrite where
  written : Bytes
  fault : IoFault
deriving DecidableEq, Repr

/-- What is in the file of a save when its write has ended. -/
def writtenBy (broken : Option BrokenWrite) (artifact : Artifact) : Bytes :=
  (broken.map BrokenWrite.written).getD artifact.bytes

/-- What is logged when a save is done. -/
def savedEvent (artifact : Artifact) (path : FilePath) : Event where
  level := .info
  message := "Upload saved"
  fields := [("path", .text path.display), ("bytes", .count artifact.size)]

/-- What is logged when the write of a save breaks off. -/
def brokenWriteEvent (path : FilePath) (fault : IoFault) : Event where
  level := .error
  message := "Error when writing upload"
  fields := [("path", .text path.display), ("error", .text fault.message)]

/-- Ends a save behind its write: the file stays just if the write did not break off. -/
def conclude (fs : FileSystem) (artifact : Artifact) (path : FilePath) :
    Option BrokenWrite → FileSystem × Traced Unit
  | none => (fs, ⟨[savedEvent artifact path], .ok ()⟩)
  | some broken =>
    let (left, removed) := removePartial fs path
    (left, ⟨brokenWriteEvent path broken.fault :: removed, .error (.io path broken.fault)⟩)

/-- Saves an artifact to a path, from the first step to the last. -/
def persist (fs : FileSystem) (artifact : Artifact) (path : FilePath)
    (broken : Option BrokenWrite := none) : FileSystem × Traced Unit :=
  let checked := checkDestination fs path
  match checked.result with
  | .error failure => (fs, ⟨checked.events, .error failure⟩)
  | .ok () =>
    let (created, claimed) := claimDestination fs path
    match claimed.result with
    | .error failure => (created, ⟨checked.events ++ claimed.events, .error failure⟩)
    | .ok place =>
      let (last, concluded) :=
        conclude (created.setContent place (writtenBy broken artifact)) artifact path broken
      (last, ⟨checked.events ++ claimed.events ++ concluded.events, concluded.result⟩)

/-! ## Saves under way -/

/-- What a save does next. -/
inductive SaveStage where
  | checking
  | creating
  | writing (place : Location)
  | finishing (place : Location)
  | done (result : Except Failure Unit)

/-- A save under way. -/
structure Save where
  artifact : Artifact
  path : FilePath
  broken : Option BrokenWrite := none
  stage : SaveStage := .checking

namespace Save

/-- Takes the next step of a save. -/
def step (fs : FileSystem) (s : Save) : FileSystem × List Event × Save :=
  match s.stage with
  | .checking =>
    let checked := checkDestination fs s.path
    match checked.result with
    | .ok () => (fs, checked.events, { s with stage := .creating })
    | .error failure => (fs, checked.events, { s with stage := .done (.error failure) })
  | .creating =>
    let (created, claimed) := claimDestination fs s.path
    match claimed.result with
    | .ok place => (created, claimed.events, { s with stage := .writing place })
    | .error failure => (created, claimed.events, { s with stage := .done (.error failure) })
  | .writing place =>
    (fs.setContent place (writtenBy s.broken s.artifact), [], { s with stage := .finishing place })
  | .finishing _ =>
    let (last, concluded) := conclude fs s.artifact s.path s.broken
    (last, concluded.events, { s with stage := .done concluded.result })
  | .done _ => (fs, [], s)

/-- Takes up to `count` steps of a save. -/
def run : (count : Nat) → FileSystem → Save → FileSystem × List Event × Save
  | 0, fs, s => (fs, [], s)
  | count + 1, fs, s =>
    let next := s.step fs
    let last := run count next.1 next.2.2
    (last.1, next.2.1 ++ last.2.1, last.2.2)

/-- The steps that a save takes at most. -/
def stepCount : Nat := 4

/-- How a save that is done ended. -/
def result? (s : Save) : Option (Except Failure Unit) :=
  match s.stage with
  | .done result => some result
  | _ => none

theorem run_done (count : Nat) (fs : FileSystem) {s : Save} {result : Except Failure Unit}
    (h : s.stage = .done result) : run count fs s = (fs, [], s) := by
  induction count with
  | zero => rfl
  | succ count ih => simp [run, step, h, ih]

/-- A save that is let run does what the whole does. -/
theorem run_eq_persist (fs : FileSystem) (artifact : Artifact) (path : FilePath)
    (broken : Option BrokenWrite) :
    run stepCount fs { artifact, path, broken } =
      ((persist fs artifact path broken).1, (persist fs artifact path broken).2.events,
        { artifact, path, broken, stage := .done (persist fs artifact path broken).2.result }) := by
  rw [stepCount, run, step, persist]
  generalize checkDestination fs path = checked
  obtain ⟨events, _ | _⟩ := checked
  · simp [run_done]
  · dsimp only
    rw [run, step]
    dsimp only
    generalize claimDestination fs path = claimed
    obtain ⟨created, more, _ | place⟩ := claimed
    · simp [run_done]
    · simp [run, step]

/-! ## Dropped saves -/

/-- Drops a save while it waits for its next step. A step that was begun takes effect all the
same; the file is removed from the moment on when the save knows of it. -/
def abandon (fs : FileSystem) (s : Save) : FileSystem × List Event :=
  match s.stage with
  | .checking => (fs, [])
  | .creating => ((claimDestination fs s.path).1, [])
  | .writing _ | .finishing _ => removePartial fs s.path
  | .done _ => (fs, [])

/-- Drops a save right after its file was created. A save that ends without creating one is
told by its result. -/
def cancel (fs : FileSystem) (artifact : Artifact) (path : FilePath) :
    FileSystem × List Event × Option (Except Failure Unit) :=
  let (created, events, s) := run 2 fs { artifact, path }
  let (after, more) := s.abandon created
  (after, events ++ more, s.result?)

end Save

end Intake
