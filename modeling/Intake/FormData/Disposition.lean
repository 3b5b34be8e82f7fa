import Intake.Text.Utf8

/-!
The attributes of a part's disposition: its name and the name of the file it holds.

An attribute is found by its text alone, wherever it stands behind a blank or a semicolon
or at the start of what is left to search. The word before the attributes does not matter.
-/

namespace Intake.FormData

inductive Attribute where
  | name
  | filename
deriving DecidableEq, Repr

namespace Attribute

/-- The text that an attribute is found by. -/
def text : Attribute → Bytes
  | name => [0x6E, 0x61, 0x6D, 0x65]
  | filename => [0x66, 0x69, 0x6C, 0x65, 0x6E, 0x61, 0x6D, 0x65]

example : text name = Bytes.ofString "name" ∧ text filename = Bytes.ofString "filename" := by
  decide

theorem length_text_pos (a : Attribute) : 0 < a.text.length := by
  cases a <;> decide

/-- Whether an octet is a blank, a tab, a line feed, a form feed or a carriage return. -/
def isSpace (b : UInt8) : Bool :=
  b == 0x20 || b == 0x09 || b == 0x0A || b == 0x0C || b == 0x0D

/-- What precedes the first quote that no backslash precedes; `seen` are the octets before,
in reverse. -/
def beforeQuote? (seen : Bytes) : Bytes → Option Bytes
  | [] => none
  | b :: rest =>
    if b = Bytes.quote ∧ seen.head? ≠ some Bytes.backslash then some seen.reverse
    else beforeQuote? (b :: seen) rest

/-- A quoted value without the backslashes before quotes. -/
def unescape : Bytes → Bytes
  | [] => []
  | [b] => [b]
  | b :: c :: rest =>
    if b = Bytes.backslash ∧ c = Bytes.quote then c :: unescape rest
    else b :: unescape (c :: rest)

/-- The value behind an attribute's text, if an equals sign comes first there. -/
def valueBehind? (run : Bytes) : Option Bytes :=
  match run.dropWhile isSpace with
  | [] => none
  | b :: rest =>
    if b = Bytes.equals then
      match rest.dropWhile isSpace with
      | [] => some []
      | c :: value =>
        if c = Bytes.quote then (beforeQuote? [] value).map unescape
        else some ((c :: value).takeWhile fun d => d != Bytes.semicolon && d != Bytes.blank)
    else none

/-- The octets of an attribute's value. -/
def octets? (a : Attribute) (disposition : Bytes) : Option Bytes :=
  match _found : Bytes.cut? a.text disposition with
  | none => none
  | some (before, after) =>
    if before.getLast?.all fun b => isSpace b || b == Bytes.semicolon then valueBehind? after
    else octets? a after
termination_by disposition.length
decreasing_by
  have less := Bytes.length_after_cut? _found
  have nonempty := a.length_text_pos
  omega

/-- An attribute's value, if it is there and a text. -/
def value? (a : Attribute) (disposition : Bytes) : Option String :=
  (a.octets? disposition).bind Utf8.decode?

end Attribute

end Intake.FormData
