import Intake.FileSystem.Walk

/-!
Finding the file of a configuration.

A relative path is looked for in the working directory, and then in every directory above
it. The file that is found is shown relative to the working directory, unless its absolute
path has no more parts.
-/

namespace Intake.Config

/-- A location and all that lie above it. -/
def ancestors : Location → List Location
  | [] => [[]]
  | name :: above => (name :: above) :: ancestors above

/-- The absolute path of a location. -/
def absolutePath (place : Location) : FilePath :=
  place.reverse.foldl (fun p name => p.join ⟨name⟩) ⟨[Bytes.slash]⟩

/-- Where a file may be that a path names, in the order of the search. -/
def candidates (cwd : Location) (path : FilePath) : List FilePath :=
  if path.isAbsolute then [path]
  else (ancestors cwd).map fun place => (absolutePath place).join path

/-- Without what two lists both start with. -/
def dropShared {α : Type} [DecidableEq α] : List α → List α → List α × List α
  | a :: as, b :: bs => if a = b then dropShared as bs else (a :: as, b :: bs)
  | as, bs => (as, bs)

/-- How a part of a path is spelled between slashes. -/
def spelled : FilePath.Component → Bytes
  | .root => []
  | .here => [Bytes.dot]
  | .up => [Bytes.dot, Bytes.dot]
  | .name octets => octets

/-- The parts that lead from a directory to an absolute path. -/
def relativeParts (base path : FilePath) : List FilePath.Component :=
  let (down, up) := dropShared path.components base.components
  up.map (fun _ => .up) ++ down

/-- How messages show the file at an absolute path. -/
def shownFile (cwd : Location) (path : FilePath) : String :=
  let parts := relativeParts (absolutePath cwd) path
  if parts.length < path.components.length then (FilePath.ofNames (parts.map spelled)).display
  else path.display

/-- The file that a path names: its absolute path and its content. -/
def findFile? (fs : FileSystem) (path : FilePath) : Option (FilePath × Bytes) :=
  (candidates fs.cwd path).findSome? fun candidate =>
    (fs.read? candidate).map fun content => (candidate, content)

end Intake.Config
