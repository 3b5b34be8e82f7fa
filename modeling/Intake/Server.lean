import Intake.Config
import Intake.FileSystem.Walk
import Intake.Log

/-!
Starting and stopping a server.
-/

namespace Intake

/-- Why a server does not start. -/
inductive StartFailure where
  | invalid (failure : Failure)
  /-- Its address cannot be listened on. -/
  | unbound (fault : IoFault)
deriving DecidableEq, Repr

def StartFailure.message : StartFailure → String
  | invalid failure => failure.message
  | unbound fault => fault.message

namespace Server

/-- Why an address cannot be listened on, if it cannot. A host is passed on as it is, so it
must not hold a NUL; the ports below 1024 but 0, which stands for any, are reserved. -/
def bindFault? (config : Config) : Option IoFault :=
  if config.host.toList.contains '\x00' then some .nulInName
  else if 1 ≤ config.port ∧ config.port < 1024 then some .permissionDenied
  else none

/-- What is logged when the script directory is none. -/
def directoryNotice (config : Config) : Event where
  level := .warn
  message := "Script directory does not exist; saves will fail until it is created"
  fields := [("script_dir", .text config.scriptDir.display)]

/-- Prepares a server: its configuration is shown and checked. `found` tells whether its script
directory is one. -/
def prepareWith (config : Config) (found : Bool) : Traced Unit := do
  .log { level := .debug,
         message := "Starting ingestctl with configuration: " ++ config.shown }
  .lift config.validate
  .logAll (if found then [] else [directoryNotice config])

/-- Prepares a server for a file system. -/
def prepare (config : Config) (fs : FileSystem) : Traced Unit :=
  prepareWith config (fs.isDirectory config.scriptDir)

/-- Listens, and stops at once. -/
def listen (config : Config) : List Event × Except StartFailure Unit :=
  match bindFault? config with
  | some fault => ([], .error (.unbound fault))
  | none =>
    ([{ level := .info,
        message := "ingestctl listening on http://" ++ config.bindAddress ++
          ", saving uploads under " ++ config.scriptDir.display },
      { level := .info, message := "Server stopped" }], .ok ())

/-- Prepares a server, listens, and stops at once. -/
def serveWith (config : Config) (found : Bool) : List Event × Except StartFailure Unit :=
  let prepared := prepareWith config found
  match prepared.result with
  | .error failure => (prepared.events, .error (.invalid failure))
  | .ok () =>
    let (events, result) := listen config
    (prepared.events ++ events, result)

/-- Serves a file system, and stops at once. -/
def serve (config : Config) (fs : FileSystem) : List Event × Except StartFailure Unit :=
  serveWith config (fs.isDirectory config.scriptDir)

end Server

end Intake
