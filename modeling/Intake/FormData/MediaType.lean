import Intake.FormData.Fault
import Intake.FormData.Token
import Intake.Headers

/-!
Media types, and the boundary that one of a form carries.

A media type is a type and a subtype, both tokens, and parameters behind semicolons. A
parameter's value is a token or a quoted text; within the quotes a backslash is nothing
special, and the first octet never closes them.
-/

namespace Intake.FormData

/-- A media type as it was written. -/
structure MediaType where
  type : Bytes
  subtype : Bytes
  parameters : List (Bytes × Bytes)
deriving DecidableEq, Repr

namespace MediaType

/-- Whether an octet may stand between quotes. -/
def isQuotable (b : UInt8) : Bool :=
  0x1F < b && b != 0x7F

/-- The value whose opening quote has been read, and what follows its closing quote. -/
def quotedValue? : Bytes → Option (Bytes × Bytes)
  | [] => none
  | first :: more =>
    let value := first :: more.takeWhile (· != Bytes.quote)
    match more.dropWhile (· != Bytes.quote) with
    | [] => none
    | _ :: after => if value.all isQuotable then some (value, after) else none

/-- What follows the blanks and the semicolon behind a quoted value. -/
def nextParameter? (run : Bytes) : Option Bytes :=
  match run.dropWhile (· == Bytes.blank) with
  | [] => some []
  | b :: rest => if b = Bytes.semicolon then some rest else none

/-- A subtype or a value that is a token, and what follows the semicolon behind it. It is
empty only at the end. -/
def tokenValue? (run : Bytes) : Option (Bytes × Bytes) :=
  let value := run.takeWhile isToken
  match run.dropWhile isToken with
  | [] => some (value, [])
  | b :: rest => if b = Bytes.semicolon ∧ value ≠ [] then some (value, rest) else none

/-- A value, and what follows the semicolon behind it. -/
def value? : Bytes → Option (Bytes × Bytes)
  | [] => tokenValue? []
  | b :: run =>
    if b = Bytes.quote then
      match quotedValue? run with
      | none => none
      | some (value, after) => (nextParameter? after).map (value, ·)
    else tokenValue? (b :: run)

/-- A parameter, and what follows the semicolon behind it. -/
def parameter? (run : Bytes) : Option ((Bytes × Bytes) × Bytes) :=
  let name := run.takeWhile isToken
  match run.dropWhile isToken with
  | [] => none
  | b :: rest =>
    if b = Bytes.equals ∧ name ≠ [] then
      (value? rest).map fun (value, after) => ((name, value), after)
    else none

/-! ## Reading on reads less -/

theorem length_dropWhile_le (p : UInt8 → Bool) (run : Bytes) :
    (run.dropWhile p).length ≤ run.length :=
  (List.dropWhile_sublist p).length_le

theorem length_quotedValue? {run value after : Bytes}
    (h : quotedValue? run = some (value, after)) : after.length ≤ run.length := by
  cases run with
  | nil => simp [quotedValue?] at h
  | cons first more =>
    simp only [quotedValue?] at h
    have shorter := length_dropWhile_le (· != Bytes.quote) more
    split at h
    · simp at h
    · next heq =>
      split at h
      · simp only [Option.some.injEq, Prod.mk.injEq] at h
        rw [heq] at shorter
        simp only [List.length_cons] at shorter ⊢
        rw [← h.2]
        omega
      · simp at h

theorem length_nextParameter? {run rest : Bytes} (h : nextParameter? run = some rest) :
    rest.length ≤ run.length := by
  have shorter := length_dropWhile_le (· == Bytes.blank) run
  simp only [nextParameter?] at h
  split at h
  · simp only [Option.some.injEq] at h
    simp [← h]
  · next heq =>
    split at h
    · simp only [Option.some.injEq] at h
      rw [heq] at shorter
      simp only [List.length_cons] at shorter
      rw [← h]
      omega
    · simp at h

theorem length_tokenValue? {run value after : Bytes} (h : tokenValue? run = some (value, after)) :
    after.length ≤ run.length := by
  have shorter := length_dropWhile_le isToken run
  simp only [tokenValue?] at h
  split at h
  · simp only [Option.some.injEq, Prod.mk.injEq] at h
    simp [← h.2]
  · next heq =>
    split at h
    · simp only [Option.some.injEq, Prod.mk.injEq] at h
      rw [heq] at shorter
      simp only [List.length_cons] at shorter
      rw [← h.2]
      omega
    · simp at h

theorem length_value? {run value after : Bytes} (h : value? run = some (value, after)) :
    after.length ≤ run.length := by
  cases run with
  | nil => exact length_tokenValue? h
  | cons b run =>
    simp only [value?] at h
    split at h
    · split at h
      · simp at h
      · next quoted =>
        obtain ⟨rest, found, same⟩ := Option.map_eq_some_iff.mp h
        simp only [Prod.mk.injEq] at same
        have first := length_quotedValue? quoted
        have second := length_nextParameter? found
        simp only [List.length_cons]
        rw [← same.2]
        omega
    · exact length_tokenValue? h

theorem length_parameter? {run after : Bytes} {parameter : Bytes × Bytes}
    (h : parameter? run = some (parameter, after)) : after.length < run.length := by
  have shorter := length_dropWhile_le isToken run
  simp only [parameter?] at h
  split at h
  · simp at h
  · next heq =>
    split at h
    · obtain ⟨⟨value, rest⟩, found, same⟩ := Option.map_eq_some_iff.mp h
      simp only [Prod.mk.injEq] at same
      have later := length_value? found
      rw [heq] at shorter
      simp only [List.length_cons] at shorter
      rw [← same.2]
      omega
    · simp at h

/-! ## The whole -/

/-- The parameters behind a semicolon. -/
def parameters? (run : Bytes) : Option (List (Bytes × Bytes)) :=
  if run.dropWhile (· == Bytes.blank) = [] then some []
  else
    match _found : parameter? (run.dropWhile (· == Bytes.blank)) with
    | none => none
    | some (parameter, after) => (parameters? after).map (parameter :: ·)
termination_by run.length
decreasing_by
  have shorter := length_dropWhile_le (· == Bytes.blank) run
  have less := length_parameter? _found
  omega

/-- Reads a media type. -/
def parse? (run : Bytes) : Option MediaType := do
  let type := run.takeWhile isToken
  match run.dropWhile isToken with
  | [] => none
  | b :: rest =>
    if b = Bytes.slash ∧ type ≠ [] then
      let (subtype, after) ← tokenValue? rest
      let parameters ← parameters? after
      some { type, subtype, parameters }
    else none

/-- The subtype without a suffix: what precedes its last plus sign, if anything does. -/
def plainSubtype (m : MediaType) : Bytes :=
  match m.subtype.reverse.dropWhile (· != 0x2B) with
  | _ :: before@(_ :: _) => before.reverse
  | _ => m.subtype

/-- Whether a media type announces a form. -/
def isFormData (m : MediaType) : Bool :=
  isWord "multipart" m.type && isWord "form-data" m.plainSubtype

/-- The value of the first parameter with the given lower-case name. -/
def parameter (m : MediaType) (name : String) : Option Bytes :=
  (m.parameters.find? fun p => isWord name p.1).map Prod.snd

end MediaType

/-- Whether an octet is printable, a blank or a tab. -/
def isPrintable (b : UInt8) : Bool :=
  b == Bytes.tab || (0x20 ≤ b && b < 0x7F)

/-- The boundary that the content type of a request announces. -/
def boundary (headers : Headers) : Except Fault Bytes :=
  match headers.first? "content-type" with
  | none => .error .noContentType
  | some value =>
    if value.all isPrintable then
      match MediaType.parse? value with
      | none => .error .unreadableContentType
      | some mediaType =>
        if mediaType.isFormData then
          match mediaType.parameter "boundary" with
          | none => .error .noBoundary
          | some boundary => .ok boundary
        else .error .notFormData
    else .error .noContentType

end Intake.FormData
