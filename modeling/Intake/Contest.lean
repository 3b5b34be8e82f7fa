import Intake.Save

/-!
Saves that run at the same time.

A contest is a file system and the saves that work on it. A schedule names the save that
takes the next step, over and over; every interleaving of the saves is a schedule.
-/

namespace Intake

/-- Saves under way on one file system. -/
structure Contest where
  fileSystem : FileSystem
  saves : List Save

namespace Contest

/-- A contest of saves that have not begun. How the write of each breaks off is told by the number
of the save. -/
def start (fileSystem : FileSystem) (tasks : List (Artifact × FilePath))
    (broken : Nat → Option BrokenWrite := fun _ => none) : Contest where
  fileSystem
  saves := tasks.mapIdx fun i (artifact, path) => { artifact, path, broken := broken i }

/-- The save with the given number takes its next step. -/
def step (c : Contest) (i : Nat) : Contest × List Event :=
  match c.saves[i]? with
  | none => (c, [])
  | some s =>
    let (fileSystem, events, next) := s.step c.fileSystem
    ({ fileSystem, saves := c.saves.set i next }, events)

/-- The saves take steps in the order of a schedule. -/
def run (c : Contest) : (schedule : List Nat) → Contest × List Event
  | [] => (c, [])
  | i :: schedule =>
    let (next, events) := c.step i
    let (last, more) := next.run schedule
    (last, events ++ more)

/-- How the saves ended, as far as they are done. -/
def results (c : Contest) : List (Option (Except Failure Unit)) :=
  c.saves.map Save.result?

/-- The schedule in which `count` saves take turns until each is done. -/
def turns (count : Nat) : List Nat :=
  (List.replicate Save.stepCount (List.range count)).flatten

end Contest

end Intake
