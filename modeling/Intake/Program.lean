import Intake.CommandLine
import Intake.Config.File
import Intake.Config.Load
import Intake.LogFilter
import Intake.Server

/-!
The program: what it prints, and how it exits.

It reads the command line, loads the configuration, and starts a server, unless it was only
to check the configuration. What happens to a server that has started is not told here.
-/

namespace Intake

/-- What a run of the program comes to. -/
structure Outcome where
  exitCode : Nat
  /-- What is printed for the user. -/
  output : String := ""
  /-- What is printed about faults. -/
  diagnostics : String := ""
deriving DecidableEq, Repr

namespace Program

/-- A run that stopped at the command line. -/
def ofStop (env : Environment) (stop : CommandLine.Stop) : Outcome where
  exitCode := stop.exitCode
  output :=
    match stop with
    | .help => CommandLine.helpText env
    | .version => CommandLine.versionText
    | _ => ""
  diagnostics := stop.message

/-- A run that failed. -/
def failed (output message : String) : Outcome where
  exitCode := 1
  output
  diagnostics := "Error: " ++ message ++ "\n"

/-- The variable that holds the filter of the log. -/
def filterVariable : String :=
  "RUST_LOG"

/-- What is logged before a server starts. -/
def openingEvents (arguments : Arguments) : List Event :=
  [{ level := .info, message := "Telemetry initialized", target := "ingestctl::telemetry" },
   { level := .debug, message := arguments.shown }]

/-- Starts a server. `found` tells whether its script directory is one. -/
def serve (arguments : Arguments) (config : Config) (found : Bool) (env : Environment) : Outcome :=
  let (events, stopped) := Server.serveWith config found
  let filter := LogFilter.ofVariable (env.get? filterVariable)
  let shown := (openingEvents arguments ++ events).filter filter.shows
  let output := String.join (shown.map Event.line)
  match stopped with
  | .ok () => { exitCode := 0, output }
  | .error failure => failed output failure.message

/-- The configuration to serve, or what the run comes to without a server. `file` is the file of
the configuration, as its path and its content. -/
def plan (arguments : Arguments) (cwd : Location) (file : Option (FilePath × Bytes))
    (env : Environment) : Except Outcome Config :=
  match Config.load (file.map Prod.snd) env, file with
  | .error fault, some (path, _) => .error (failed "" (fault.report (Config.shownFile cwd path)))
  | .error fault, none => .error (failed "" (fault.report ""))
  | .ok config, _ =>
    if arguments.validate then .error { exitCode := 0, output := "Configuration is valid.\n" }
    else .ok config

/-- Runs the program. -/
def run (arguments : List String) (env : Environment) (fs : FileSystem) : Outcome :=
  match CommandLine.read arguments env with
  | .error stop => ofStop env stop
  | .ok arguments =>
    match plan arguments fs.cwd (Config.findFile? fs (.ofString arguments.config)) env with
    | .error outcome => outcome
    | .ok config => serve arguments config (fs.isDirectory config.scriptDir) env

end Program

end Intake
