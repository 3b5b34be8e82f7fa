import Intake.Config
import Intake.Config.Fault

/-!
Reading a configuration from settings.

A record of fields is read from a mapping of some of their names, or from a sequence of the
first few of them; fields that are not given keep their defaults. The entries of a mapping
are taken in the order of their keys, and the first fault is told.
-/

namespace Intake.Config

/-- A value that may be wrong. -/
abbrev Reading (α : Type) := Except Fault α

/-! ## Values -/

/-- The setting `s` is of the wrong kind. -/
def wrongType {α : Type} (s : Setting) (expected : Expected) : Reading α :=
  .error { problem := .invalidType s.shape expected, origin := some s.origin }

/-- The setting `s` is the number `value`, which is out of range. -/
def outOfRange {α : Type} (s : Setting) (value : Scalar) (expected : Expected) : Reading α :=
  .error { problem := .invalidValue value expected, origin := some s.origin }

/-- Reads a number below `bound`, which takes up to 64 bits. -/
def readNumber (bound : Nat) (expected : Expected) (s : Setting) : Reading Nat :=
  match s with
  | .scalar _ (.unsigned n) =>
    if n < bound then .ok n
    else if fitsUnsigned n then outOfRange s (.unsigned n) expected
    else wrongType s expected
  | .scalar _ (.signed i) =>
    if 0 ≤ i ∧ i < bound then .ok i.toNat
    else if fitsSigned i then outOfRange s (.signed i) expected
    else wrongType s expected
  | s => wrongType s expected

def readPort (s : Setting) : Reading Nat :=
  readNumber 65536 .port s

def readSize (s : Setting) : Reading Nat :=
  readNumber Word.limit .size s

/-- Reads a size that may be unset. -/
def readOptionalSize (s : Setting) : Reading (Option Nat) :=
  match s with
  | .scalar _ .null => .ok none
  | s => (readSize s).map some

/-- Reads a text. -/
def readText (expected : Expected) (s : Setting) : Reading String :=
  match s with
  | .scalar _ (.text t) => .ok t
  | s => wrongType s expected

/-! ## Records -/

/-- A field of a record: its name, and how a record takes a setting for it. -/
structure Field (σ : Type) where
  name : String
  take : σ → Setting → Reading σ

variable {σ : Type}

/-- Takes an entry of a mapping. -/
def takeEntry (fields : List (Field σ)) (record : σ) (entry : String × Setting) : Reading σ :=
  match fields.find? fun field => field.name == entry.1 with
  | some field => (field.take record entry.2).mapError (Fault.below entry.1)
  | none =>
    .error
      { problem := .unknownField entry.1 (fields.map Field.name)
        path := [entry.1]
        origin := some entry.2.origin }

/-- Takes the item of a sequence that stands at an index. -/
def takeItem (record : σ) (item : (Field σ × Setting) × Nat) : Reading σ :=
  (item.1.1.take record item.1.2).mapError (Fault.below (toString item.2))

/-- Takes the entries of a mapping. -/
def takeEntries (fields : List (Field σ)) (start : σ) (entries : Setting.Entries) : Reading σ :=
  entries.foldlM (takeEntry fields) start

/-- Reads a record whose defaults are those of `start`. -/
def readRecord (expected : Expected) (fields : List (Field σ)) (start : σ) (s : Setting) :
    Reading σ :=
  match s with
  | .mapping _ entries => takeEntries fields start entries
  | .sequence _ items => (fields.zip items).zipIdx.foldlM takeItem start
  | s => wrongType s expected

/-! ## The records of a configuration -/

/-- The fields of the limits of uploads. -/
def fileLimitsFields : List (Field FileLimits) := [
  ⟨"max_file_size", fun l s => (readSize s).map fun n => { l with maxFileSize := n }⟩,
  ⟨"memory_limit", fun l s => (readSize s).map fun n => { l with memoryLimit := n }⟩,
  ⟨"chunk_size", fun l s => (readOptionalSize s).map fun n => { l with chunkSize := n }⟩,
  ⟨"framing_overhead", fun l s => (readSize s).map fun n => { l with framingOverhead := n }⟩]

def readFileLimits (s : Setting) : Reading FileLimits :=
  readRecord .fileLimits fileLimitsFields {} s

/-- The fields of the limits, of which those of uploads are the only ones. -/
def limitsFields : List (Field FileLimits) := [
  ⟨"files", fun _ s => readFileLimits s⟩]

def readLimits (s : Setting) : Reading FileLimits :=
  readRecord .limits limitsFields {} s

/-- The fields of a configuration. -/
def fields : List (Field Config) := [
  ⟨"host", fun c s => (readText .host s).map fun t => { c with host := t }⟩,
  ⟨"port", fun c s => (readPort s).map fun n => { c with port := n }⟩,
  ⟨"script_dir", fun c s => (readText .path s).map fun t => { c with scriptDir := .ofString t }⟩,
  ⟨"limits", fun c s => (readLimits s).map fun l => { c with files := l }⟩]

/-- The configuration that entries give. -/
def ofEntries (entries : Setting.Entries) : Reading Config :=
  takeEntries fields {} entries

end Intake.Config
