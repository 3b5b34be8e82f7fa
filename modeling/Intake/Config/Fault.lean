import Intake.Failure
import Intake.Yaml.Document

/-!
Why there is no configuration.

A fault knows the key that it is about, and where that was given. `Fault.message` tells what
is wrong, and `Fault.report` also where.
-/

namespace Intake.Config

/-- What a setting should have been. -/
inductive Expected where
  | port
  | size
  | host
  | path
  | limits
  | fileLimits
deriving DecidableEq, Repr

/-- How a message names what should have been. -/
def Expected.described : Expected → String
  | port => "u16"
  | size => "u64"
  | host => "a string"
  | path => "path string"
  | limits => "struct LimitsConfig"
  | fileLimits => "struct FileLimitsConfig"

/-- What is wrong. -/
inductive Problem where
  /-- A setting is of the wrong kind. -/
  | invalidType (found : Setting.Shape) (expected : Expected)
  /-- A number is out of range. -/
  | invalidValue (found : Scalar) (expected : Expected)
  | unknownField (key : String) (known : List String)
  /-- The document cannot be read. -/
  | unreadable (fault : Yaml.Fault)
  /-- The configuration is complete, but its limits make no sense. -/
  | invalid (failure : Failure)
deriving DecidableEq, Repr

/-- A key between backquotes. -/
def backquoted (key : String) : String :=
  "`" ++ key ++ "`"

/-- The keys that are known, as a message lists them. -/
def listed : List String → String
  | [key] => backquoted key
  | keys => "one of " ++ String.intercalate ", " (keys.map backquoted)

def Problem.message : Problem → String
  | invalidType found expected =>
    "invalid type: found " ++ found.described ++ ", expected " ++ expected.described
  | invalidValue found expected =>
    "invalid value " ++ found.described ++ ", expected " ++ expected.described
  | unknownField key known =>
    "unknown field: found " ++ backquoted key ++ ", expected " ++ backquoted (listed known)
  | unreadable fault => fault.message
  | invalid failure => failure.message

/-- A problem, the path of the setting that it is about, and where that was given. -/
structure Fault where
  problem : Problem
  path : List String := []
  origin : Option Origin := none
deriving DecidableEq, Repr

namespace Fault

/-- A fault of a setting, seen from the mapping or sequence that it is in. -/
def below (key : String) (fault : Fault) : Fault :=
  { fault with path := key :: fault.path }

def message (fault : Fault) : String :=
  fault.problem.message

/-- The path of the setting, by the place where it was given. -/
def shownKey (origin : Origin) (path : List String) : String :=
  match origin with
  | .file => String.intercalate "." ("default" :: path)
  | .environment => String.ofList ((String.intercalate "." path).toList.map Char.toUpper)

/-- Where the setting was given. -/
def shownOrigin (file : String) : Origin → String
  | .file => file ++ " YAML file"
  | .environment => "`INGESTCTL_` environment variable(s)"

/-- What is wrong and where, when the document is the file that is shown as `file`. -/
def report (file : String) (fault : Fault) : String :=
  match fault.origin with
  | none => fault.message
  | some origin =>
    let key :=
      if fault.path = [] then "" else " for key " ++ Text.quoted (shownKey origin fault.path)
    fault.message ++ key ++ " in " ++ shownOrigin file origin

end Fault

end Intake.Config
