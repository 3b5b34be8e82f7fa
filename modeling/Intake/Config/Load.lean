import Intake.Config.Reading
import Intake.Environment

/-!
Loading a configuration: a document, and the variables that lie over it.
-/

namespace Intake.Config

/-- The entries of a document, of which there may be none. -/
def documentEntries : Option Bytes → Reading Setting.Entries
  | none => .ok []
  | some content =>
    (Yaml.read content).mapError fun fault =>
      { problem := .unreadable fault, origin := some .file }

/-- Accepts a configuration that is valid. -/
def validated (c : Config) : Reading Config :=
  match c.validate with
  | .ok () => .ok c
  | .error failure => .error { problem := .invalid failure }

/-- The configuration that a document and the variables give, where the variables lie over the
document. -/
def load (document : Option Bytes) (env : Environment) : Reading Config := do
  let entries ← documentEntries document
  let c ← ofEntries (Setting.mergeEntries entries env.entries)
  validated c

end Intake.Config
