import Intake.FileSystem.Basic
import Intake.IoFault

/-!
Paths in a file system: what they lead to, and files that come and go at them.

A path leads to a location by a walk that follows links, at most 40 of them. A file comes
into being by `createNew` alone, which refuses a place where anything is, be it a link that
leads nowhere.
-/

namespace Intake

namespace FileSystem

/-- The most links that a walk follows. -/
def maxLinks : Nat := 40

/-- The most octets of a name. -/
def maxName : Nat := 255

/-- The most octets of a path. -/
def maxPath : Nat := 4095

end FileSystem

namespace FilePath

/-- The steps of a path: what stands between its slashes, `.` and `..` included. -/
def steps (p : FilePath) : List Bytes :=
  (segments p.octets).filter (· ≠ [])

/-- Whether a path ends in a slash, so that it can only lead to a directory. -/
def endsInSlash (p : FilePath) : Bool :=
  p.octets.getLast? == some Bytes.slash

end FilePath

namespace FileSystem

/-- Whether a step stays where it is. -/
def isHere (step : Bytes) : Bool :=
  step == [Bytes.dot]

/-- Whether a step leads to the directory above. -/
def isUp (step : Bytes) : Bool :=
  step == [Bytes.dot, Bytes.dot]

/-- Follows steps from a directory, and at most `links` links. With `strict` they must lead
to a directory. -/
def walk (fs : FileSystem) (links : Nat) (here : Location) (steps : List Bytes) (strict : Bool) :
    Except IoFault (Location × Entry) :=
  match steps with
  | [] => .ok (here, .directory)
  | step :: rest =>
    if isHere step then fs.walk links here rest strict
    else if isUp step then fs.walk links here.tail rest strict
    else if maxName < step.length then .error .nameTooLong
    else
      match fs.find? (step :: here) with
      | none => .error .notFound
      | some .directory => fs.walk links (step :: here) rest strict
      | some (.file content) =>
        if rest = [] ∧ strict = false then .ok (step :: here, .file content)
        else .error .notADirectory
      | some (.link target) =>
        match links with
        | 0 => .error .tooManyLinks
        | links + 1 =>
          fs.walk links (if target.isAbsolute then [] else here) (target.steps ++ rest)
            (strict || (rest.isEmpty && target.endsInSlash))
termination_by (links, steps.length)

/-- Where a walk along a path starts, if a walk along it can start at all. -/
def start (fs : FileSystem) (p : FilePath) : Except IoFault Location :=
  if p.octets.contains 0 then .error .nulInName
  else if p.octets = [] then .error .notFound
  else if maxPath < p.octets.length then .error .nameTooLong
  else if p.isAbsolute then .ok []
  else if fs.find? fs.cwd = some .directory then .ok fs.cwd
  else .error .notFound

/-- What a path leads to. -/
def resolve (fs : FileSystem) (p : FilePath) : Except IoFault (Location × Entry) :=
  match fs.start p with
  | .error fault => .error fault
  | .ok here => fs.walk maxLinks here p.steps p.endsInSlash

/-- Whether a path leads to anything. -/
def tryExists (fs : FileSystem) (p : FilePath) : Except IoFault Bool :=
  match fs.resolve p with
  | .ok _ => .ok true
  | .error .notFound => .ok false
  | .error fault => .error fault

/-- Whether a path leads to a directory. -/
def isDirectory (fs : FileSystem) (p : FilePath) : Bool :=
  match fs.resolve p with
  | .ok (_, .directory) => true
  | _ => false

/-- The content of the file that a path leads to. -/
def read? (fs : FileSystem) (p : FilePath) : Option Bytes :=
  match fs.resolve p with
  | .ok (_, .file content) => some content
  | _ => none

/-- The directory that a path leads to without its last step, and that step. -/
def parent (fs : FileSystem) (p : FilePath) : Except IoFault (Location × Bytes) :=
  match fs.start p with
  | .error fault => .error fault
  | .ok here =>
    match p.steps.getLast? with
    | none => .error .alreadyExists
    | some step =>
      match fs.walk maxLinks here p.steps.dropLast true with
      | .error fault => .error fault
      | .ok (dir, _) =>
        if isHere step || isUp step then .error .alreadyExists
        else if p.endsInSlash then .error .isADirectory
        else if maxName < step.length then .error .nameTooLong
        else .ok (dir, step)

/-! ## Files -/

/-- Creates an empty file where a path leads to, if nothing at all is there: no link at the
last step is followed. -/
def createNew (fs : FileSystem) (p : FilePath) : Except IoFault (FileSystem × Location) :=
  match fs.parent p with
  | .error fault => .error fault
  | .ok (dir, name) =>
    if free : fs.find? dir = some .directory ∧ fs.find? (name :: dir) = none then
      .ok (fs.insert dir name (.file []) free, name :: dir)
    else .error .alreadyExists

/-- Removes the file or link that a path leads to. -/
def removeFile (fs : FileSystem) (p : FilePath) : Except IoFault FileSystem :=
  match fs.parent p with
  | .error fault => .error fault
  | .ok (dir, name) =>
    if leaf : fs.find? (name :: dir) ≠ some .directory then
      if fs.find? (name :: dir) = none then .error .notFound
      else .ok (fs.eraseLeaf (name :: dir) leaf)
    else .error .isADirectory

end FileSystem

end Intake
