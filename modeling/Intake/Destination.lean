import Intake.Failure
import Intake.Text.Blank
import Intake.Text.Quoted

/-!
Where a save is to land.

A destination is resolved against a base directory and the name that the client gave its
file. Of that name only the last segment counts, and an override keeps only its plain
parts, so neither climbs out of the directory it is put into.
-/

namespace Intake

/-- Where a save is to land. -/
inductive Destination where
  /-- Under the client's name in the base directory. -/
  | ownName
  /-- Under another name in the base directory; the empty one stands for the client's. -/
  | renamed (name : String)
  /-- Under the client's name in a directory, which is relative to the base directory unless
  it is absolute. -/
  | inDirectory (directory : FilePath)
deriving DecidableEq, Repr

namespace Destination

/-- The characters behind the last slash or backslash. -/
def lastSegment (cs : List Char) : List Char :=
  (cs.reverse.takeWhile fun c => c != '/' && c != '\\').reverse

/-- The name that a client's file name comes to: its last segment, without blanks around it,
if that is a name. -/
def clientFileName (filename : String) : Except Failure FilePath :=
  let name := FilePath.ofString (String.ofList (Text.trimChars (lastSegment filename.toList)))
  match name.components with
  | [.name _] => .ok name
  | _ =>
    .error <| .invalidDestination <|
      "uploaded filename " ++ Text.quoted filename ++ " cannot be used as a file name"

/-- The plain parts of a path; a leading root or `.` is dropped. -/
def names (components : List FilePath.Component) : List Bytes :=
  components.filterMap fun
    | .name octets => some octets
    | _ => none

/-- The relative path that an override name comes to. -/
def containedPath (target : String) : Except Failure FilePath :=
  let components := (FilePath.ofString target).components
  if components.contains .up then
    .error <| .invalidDestination <|
      "target filename " ++ Text.quoted target ++ " may not contain '..'"
  else if names components = [] then
    .error <| .invalidDestination <|
      "target filename " ++ Text.quoted target ++ " does not name a file"
  else .ok (.ofNames (names components))

/-- The path that a destination stands for. -/
def resolve (destination : Destination) (base : FilePath) (filename : String) :
    Except Failure FilePath :=
  match destination with
  | ownName => (clientFileName filename).map base.join
  | renamed name =>
    if name = "" then (clientFileName filename).map base.join
    else (containedPath name).map base.join
  | inDirectory directory =>
    (clientFileName filename).map fun name =>
      if directory.isAbsolute then directory.join name else (base.join directory).join name

end Destination

end Intake
