import Intake.Text.Quoted
import Intake.Text.Utf8

/-!
Paths of files: octets, with a slash between the parts.

A path is read as `components`, in which repeated slashes, a trailing slash and inner
`.` parts leave no trace. `join` puts one path behind another as texts do, without
resolving `.` or `..`, so that a printed path shows what was asked for.
-/

namespace Intake

/-- A path as it was spelled. -/
structure FilePath where
  octets : Bytes
deriving DecidableEq, Repr, Inhabited

namespace FilePath

/-- A part of a path. -/
inductive Component where
  /-- The leading slash of an absolute path. -/
  | root
  /-- A leading `.`. -/
  | here
  /-- Two dots. -/
  | up
  /-- The name of an entry. -/
  | name (octets : Bytes)
deriving DecidableEq, Repr

/-- Whether a component is the name of an entry. -/
def Component.isName : Component → Bool
  | .name _ => true
  | _ => false

def ofString (s : String) : FilePath :=
  ⟨Bytes.ofString s⟩

/-- The path as a text, with U+FFFD where it is none. -/
def display (p : FilePath) : String :=
  Utf8.decodeLossy p.octets

/-- An octet between double quotes that is part of no character. -/
def quotedOctet (b : UInt8) : List Char :=
  ['\\', 'x', (Nat.digitChar (b.toNat / 16)).toUpper, (Nat.digitChar (b.toNat % 16)).toUpper]

/-- The path in double quotes. -/
def quoted (p : FilePath) : String :=
  String.ofList <| '"' :: ((Utf8.leads p.octets).flatMap fun
    | .char c => Text.quotedChar c
    | .broken octets => octets.flatMap quotedOctet) ++ ['"']

def isAbsolute (p : FilePath) : Bool :=
  p.octets.head? == some Bytes.slash

/-- The runs of octets between slashes. -/
def segments (octets : Bytes) : List Bytes :=
  Bytes.splitAll Bytes.slash octets

/-- What a segment behind the first one stands for; empty ones and `.` stand for nothing. -/
def component? (segment : Bytes) : Option Component :=
  if segment = [] ∨ segment = [Bytes.dot] then none
  else if segment = [Bytes.dot, Bytes.dot] then some .up
  else some (.name segment)

/-- What stands before the names: the root, a leading `.`, or nothing. -/
def start (p : FilePath) : List Component :=
  if p.isAbsolute then [.root]
  else if (segments p.octets).head? = some [Bytes.dot] then [.here]
  else []

/-- The parts of a path, in order. -/
def components (p : FilePath) : List Component :=
  p.start ++ (segments p.octets).filterMap component?

/-- Puts `tail` behind `p`; an absolute `tail` stands for itself. -/
def join (p tail : FilePath) : FilePath :=
  if tail.isAbsolute then tail
  else if p.octets = [] ∨ p.octets.getLast? = some Bytes.slash then ⟨p.octets ++ tail.octets⟩
  else ⟨p.octets ++ Bytes.slash :: tail.octets⟩

/-- The last part of a path, if it is a name. -/
def fileName (p : FilePath) : Option Bytes :=
  match p.components.getLast? with
  | some (.name octets) => some octets
  | _ => none

/-- Whether the parts of `base` come first among those of `p`. -/
def isWithin (p base : FilePath) : Bool :=
  base.components.isPrefixOf p.components

/-- Names joined into a relative path. -/
def ofNames (names : List Bytes) : FilePath :=
  names.foldl (fun p name => p.join ⟨name⟩) ⟨[]⟩

end FilePath

end Intake
