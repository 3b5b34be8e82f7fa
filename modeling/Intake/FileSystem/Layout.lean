import Intake.FileSystem.Basic

/-!
Laying out a file system entry by entry.

Unlike a save, a layout may replace the content of a file, and it makes the directories
above a directory that are missing.
-/

namespace Intake.FileSystem

/-- Puts an entry at a location in an existing directory. A file takes the place of a file;
anything else needs a free location. -/
def put (fs : FileSystem) (place : Location) (entry : Entry) : FileSystem :=
  match place with
  | [] => fs
  | name :: dir =>
    if free : fs.find? dir = some .directory ∧ fs.find? (name :: dir) = none then
      fs.insert dir name entry free
    else
      match entry with
      | .file content => fs.setContent (name :: dir) content
      | _ => fs

/-- Makes a directory, and those above it that are missing. -/
def makeDirectory (fs : FileSystem) : Location → FileSystem
  | [] => fs
  | name :: dir => (fs.makeDirectory dir).put (name :: dir) .directory

end Intake.FileSystem
