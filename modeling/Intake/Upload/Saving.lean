import Intake.Contest
import Intake.Destination
import Intake.Upload

/-!
Saving what was received.

An upload is saved to where a `Destination` stands for, under its base directory. However a
save fails, its last event tells the failure. `save` and `saveIn` keep of a save only
whether it succeeded. How the write of a save breaks off, if it does, is told with the save.
-/

namespace Intake.Upload

/-- What is logged of a save behind its other events. -/
def saveNotice (u : Upload) : Except Failure FilePath → List Event
  | .ok _ => []
  | .error failure =>
    [{ level := .error, message := "Failed to save upload",
       fields := [("error", .text failure.message), ("filename", .text u.artifact.filename)] }]

/-- Where a destination lies for an upload. -/
def locate (u : Upload) (destination : Destination) : Except Failure FilePath :=
  destination.resolve u.baseDir u.artifact.filename

/-- Saves an upload, and says to which path. -/
def saveTo (u : Upload) (fs : FileSystem) (destination : Destination)
    (broken : Option BrokenWrite := none) : FileSystem × Traced FilePath :=
  match u.locate destination with
  | .error failure => (fs, (Traced.fail failure).noting u.saveNotice)
  | .ok path =>
    let (after, saved) := persist fs u.artifact path broken
    (after, (saved >>= fun _ => pure path).noting u.saveNotice)

/-- The destination of a save under another name, or under the client's. -/
def named : Option String → Destination
  | some name => .renamed name
  | none => .ownName

/-- Saves an upload under another name, or under the client's. -/
def trySave (u : Upload) (fs : FileSystem) (name : Option String)
    (broken : Option BrokenWrite := none) : FileSystem × Traced FilePath :=
  u.saveTo fs (named name) broken

/-- Saves an upload under the client's name in a directory. -/
def trySaveIn (u : Upload) (fs : FileSystem) (directory : String)
    (broken : Option BrokenWrite := none) : FileSystem × Traced FilePath :=
  u.saveTo fs (.inDirectory (.ofString directory)) broken

/-- Whether a save succeeded. -/
def succeeded {α : Type} (t : Traced α) : Bool :=
  t.result.toBool

/-- Saves an upload under another name, or under the client's, and says whether that went
well. -/
def save (u : Upload) (fs : FileSystem) (name : Option String)
    (broken : Option BrokenWrite := none) : FileSystem × List Event × Bool :=
  let (after, saved) := u.trySave fs name broken
  (after, saved.events, succeeded saved)

/-- Saves an upload in a directory, and says whether that went well. -/
def saveIn (u : Upload) (fs : FileSystem) (directory : String)
    (broken : Option BrokenWrite := none) : FileSystem × List Event × Bool :=
  let (after, saved) := u.trySaveIn fs directory broken
  (after, saved.events, succeeded saved)

/-- Saves an upload several times at once to one destination; the saves take their steps in the
order of a schedule. -/
def raceBy (u : Upload) (fs : FileSystem) (destination : Destination) (count : Nat)
    (schedule : List Nat) (broken : Nat → Option BrokenWrite := fun _ => none) :
    FileSystem × List Event × List (Except Failure FilePath) :=
  match u.locate destination with
  | .error failure =>
    (fs, (List.replicate count (u.saveNotice (.error failure))).flatten,
      List.replicate count (.error failure))
  | .ok path =>
    let (last, events) :=
      (Contest.start fs (List.replicate count (u.artifact, path)) broken).run schedule
    let results := last.results.reduceOption.map fun result => result.map fun () => path
    (last.fileSystem, events ++ results.flatMap u.saveNotice, results)

/-- Saves an upload several times at once to one destination; the saves take turns. -/
def race (u : Upload) (fs : FileSystem) (destination : Destination) (count : Nat)
    (broken : Nat → Option BrokenWrite := fun _ => none) :
    FileSystem × List Event × List (Except Failure FilePath) :=
  u.raceBy fs destination count (Contest.turns count) broken

/-- Begins a save and drops it right after its file was created. Says whether that came to
pass, which it does not when the save ends without creating a file. -/
def cancelSave (u : Upload) (fs : FileSystem) (destination : Destination) :
    FileSystem × List Event × Bool :=
  match u.locate destination with
  | .error failure => (fs, u.saveNotice (.error failure), false)
  | .ok path =>
    let (after, events, ended) := Save.cancel fs u.artifact path
    match ended with
    | none => (after, events, true)
    | some result => (after, events ++ u.saveNotice (result.map fun () => path), false)

end Intake.Upload
