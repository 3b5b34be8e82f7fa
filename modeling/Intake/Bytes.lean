/-!
Runs of octets, as they arrive on the wire and lie in files.

A run is a list, so that a body, a frame of it and a file's content compare and
concatenate by the laws of lists. `Bytes.cut?` finds the first place where a needle
occurs; `cut?_eq_some` says that nothing is lost by cutting there.
-/

namespace Intake

/-- A run of octets. -/
abbrev Bytes := List UInt8

namespace Bytes

/-- The UTF-8 encoding of a text. -/
def ofString (s : String) : Bytes :=
  s.toList.flatMap String.utf8EncodeChar

/-! ## Octets with a name -/

/-- Horizontal tab. -/
def tab : UInt8 := 0x09

/-- Line feed. -/
def lf : UInt8 := 0x0A

/-- Carriage return. -/
def cr : UInt8 := 0x0D

/-- Blank. -/
def blank : UInt8 := 0x20

/-- Double quote. -/
def quote : UInt8 := 0x22

/-- Hyphen. -/
def hyphen : UInt8 := 0x2D

/-- Full stop. -/
def dot : UInt8 := 0x2E

/-- Slash. -/
def slash : UInt8 := 0x2F

/-- Colon. -/
def colon : UInt8 := 0x3A

/-- Semicolon. -/
def semicolon : UInt8 := 0x3B

/-- Equals sign. -/
def equals : UInt8 := 0x3D

/-- Backslash. -/
def backslash : UInt8 := 0x5C

/-- A line end. -/
def crlf : Bytes := [cr, lf]

/-- How many octets there are in several runs. -/
def total : List Bytes → Nat
  | [] => 0
  | run :: runs => run.length + total runs

theorem total_eq (runs : List Bytes) : total runs = runs.flatten.length := by
  induction runs with
  | nil => rfl
  | cons run runs ih => rw [total, ih, List.flatten_cons, List.length_append]

theorem total_append (runs more : List Bytes) : total (runs ++ more) = total runs + total more := by
  simp only [total_eq, List.flatten_append, List.length_append]

theorem total_reverse (runs : List Bytes) : total runs.reverse = total runs := by
  induction runs with
  | nil => rfl
  | cons run runs ih =>
    rw [List.reverse_cons, total_append, ih, total, total, total, Nat.add_zero, Nat.add_comm]

/-! ## Splitting -/

/-- The runs between the occurrences of `separator`. -/
def splitAll (separator : UInt8) : Bytes → List Bytes
  | [] => [[]]
  | b :: rest =>
    if b = separator then [] :: splitAll separator rest
    else
      match splitAll separator rest with
      | [] => [[b]]
      | first :: more => (b :: first) :: more

/-! ## Cutting at a needle -/

/-- What follows `needle` in a run that begins with it. -/
def strip? : (needle : Bytes) → Bytes → Option Bytes
  | [], run => some run
  | _ :: _, [] => none
  | n :: needle, b :: run => if n = b then strip? needle run else none

/-- Continues `cut?` behind the octets `seen` already, which are kept in reverse. -/
def cutBehind (needle seen : Bytes) : Bytes → Option (Bytes × Bytes)
  | [] => if needle.isEmpty then some (seen.reverse, []) else none
  | b :: run =>
    match strip? needle (b :: run) with
    | some after => some (seen.reverse, after)
    | none => cutBehind needle (b :: seen) run

/-- What lies before the first occurrence of `needle`, and what lies behind it. -/
def cut? (needle run : Bytes) : Option (Bytes × Bytes) :=
  cutBehind needle [] run

theorem eq_append_of_strip? {needle run rest : Bytes} (h : strip? needle run = some rest) :
    run = needle ++ rest := by
  induction needle generalizing run with
  | nil => simpa [strip?] using h
  | cons n needle ih =>
    cases run with
    | nil => simp [strip?] at h
    | cons b run =>
      by_cases same : n = b
      · simp only [strip?, same, if_true] at h
        rw [ih h, same, List.cons_append]
      · simp [strip?, same] at h

theorem strip?_append (needle rest : Bytes) : strip? needle (needle ++ rest) = some rest := by
  induction needle with
  | nil => rfl
  | cons n needle ih => simp [strip?, ih]

theorem cutBehind_eq_some {needle seen run before after : Bytes}
    (h : cutBehind needle seen run = some (before, after)) :
    seen.reverse ++ run = before ++ needle ++ after := by
  induction run generalizing seen with
  | nil =>
    simp only [cutBehind] at h
    split at h
    · next empty =>
      simp only [Option.some.injEq, Prod.mk.injEq] at h
      simp [← h.1, ← h.2, List.isEmpty_iff.mp empty]
    · simp at h
  | cons b run ih =>
    simp only [cutBehind] at h
    split at h
    · next rest found =>
      simp only [Option.some.injEq, Prod.mk.injEq] at h
      rw [← h.1, ← h.2, eq_append_of_strip? found, List.append_assoc]
    · rw [← ih h]
      simp

/-- Cutting loses nothing but the needle itself. -/
theorem cut?_eq_some {needle run before after : Bytes}
    (h : cut? needle run = some (before, after)) :
    run = before ++ needle ++ after := by
  simpa using cutBehind_eq_some h

/-- What lies behind the needle is shorter than the run by the needle at least. -/
theorem length_after_cut? {needle run before after : Bytes}
    (h : cut? needle run = some (before, after)) :
    after.length + needle.length ≤ run.length := by
  have whole := congrArg List.length (cut?_eq_some h)
  simp only [List.length_append] at whole
  omega

end Bytes

end Intake
