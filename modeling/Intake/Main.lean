import Intake.Program

/-!
The command: it gathers the arguments, the variables and the files that the program asks for,
and prints what it comes to.
-/

namespace Intake.Command

/-- The variables in the text that the system keeps of them: each ends in a NUL. -/
def variablesOf (text : String) : Environment :=
  (text.splitOn "\x00").filterMap fun given =>
    match given.splitOn "=" with
    | name :: first :: more => some (name, String.intercalate "=" (first :: more))
    | _ => none

/-- The content of a file, if there is one that can be read. -/
def contentOf (path : String) : IO (Option Bytes) := do
  try
    let content ← IO.FS.readBinFile path
    return some content.toList
  catch _ => return none

/-- The first of some paths where there is a file, and its content. -/
def firstFile : List FilePath → IO (Option (FilePath × Bytes))
  | [] => return none
  | path :: rest => do
    match ← contentOf path.display with
    | some content => return some (path, content)
    | none => firstFile rest

/-- Whether there is a directory at a path. -/
def isDirectory (path : String) : IO Bool := do
  (← IO.FS.realPath path).isDir

/-- Prints what a run comes to. -/
def finish (outcome : Outcome) : IO UInt32 := do
  IO.print outcome.output
  IO.eprint outcome.diagnostics
  return UInt32.ofNat outcome.exitCode

/-- Runs the program for arguments that were understood. -/
def runWith (arguments : Arguments) (env : Environment) : IO UInt32 := do
  let cwd := (FilePath.ofString (← IO.currentDir).toString).steps.reverse
  let file ← firstFile (Config.candidates cwd (.ofString arguments.config))
  match Program.plan arguments cwd file env with
  | .error outcome => finish outcome
  | .ok config =>
    finish (Program.serve arguments config (← isDirectory config.scriptDir.display) env)

end Intake.Command

open Intake

/-- Runs the program for the arguments and variables of this process. -/
def main (arguments : List String) : IO UInt32 := do
  let text := (← Command.contentOf "/proc/self/environ").getD []
  let env := Command.variablesOf (Utf8.decodeLossy text)
  match CommandLine.read arguments env with
  | .error stop => Command.finish (Program.ofStop env stop)
  | .ok arguments => Command.runWith arguments env
