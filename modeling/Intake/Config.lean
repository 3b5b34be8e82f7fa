import Intake.Failure
import Intake.Settings

/-!
The configuration of a server.

A configuration is valid when no limit that must be positive is zero. `Config.shown` is
how the log shows one.
-/

namespace Intake

structure Config where
  /-- The host to listen on. -/
  host : String := "0.0.0.0"
  port : Nat := 3000
  /-- Where saves start from. -/
  scriptDir : FilePath := .ofString "."
  /-- The limits of uploads. -/
  files : FileLimits := {}
deriving DecidableEq, Repr, Inhabited

namespace Config

/-- Whether all limits that must be positive are. Every number of 64 bits is the size of something on
the machines that this runs on, so no limit is too large. -/
def validate (c : Config) : Except Failure Unit :=
  if c.files.maxFileSize = 0 then
    .error (.config "limits.files.max_file_size must be greater than 0")
  else if c.files.memoryLimit = 0 then
    .error (.config "limits.files.memory_limit must be greater than 0")
  else if c.files.chunkSize = some 0 then
    .error (.config "limits.files.chunk_size must be greater than 0 when set")
  else .ok ()

/-- The address to listen on. -/
def bindAddress (c : Config) : String :=
  c.host ++ ":" ++ toString c.port

/-! ## How the log shows a configuration -/

/-- A line at a depth of nesting. -/
def line (depth : Nat) (text : String) : String :=
  String.ofList (List.replicate (4 * depth) ' ') ++ text ++ "\n"

/-- A limit that may be unset, in the lines of a field at depth 3. -/
def shownChunkSize : Option Nat → String
  | none => line 3 "chunk_size: None,"
  | some n =>
    line 3 "chunk_size: Some(" ++ line 4 (toString n ++ ",") ++ line 3 "),"

def shown (c : Config) : String :=
  "Config \x7b\n" ++
  line 1 ("host: " ++ Text.quoted c.host ++ ",") ++
  line 1 ("port: " ++ toString c.port ++ ",") ++
  line 1 ("script_dir: " ++ c.scriptDir.quoted ++ ",") ++
  line 1 "limits: LimitsConfig \x7b" ++
  line 2 "files: FileLimitsConfig \x7b" ++
  line 3 ("max_file_size: " ++ toString c.files.maxFileSize ++ ",") ++
  line 3 ("memory_limit: " ++ toString c.files.memoryLimit ++ ",") ++
  shownChunkSize c.files.chunkSize ++
  line 3 ("framing_overhead: " ++ toString c.files.framingOverhead ++ ",") ++
  line 2 "\x7d," ++
  line 1 "\x7d," ++
  "\x7d"

end Config

end Intake
