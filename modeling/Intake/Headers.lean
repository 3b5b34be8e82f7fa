import Intake.Bytes

/-!
Header fields, of a request or of a part of a form.

Names are compared without regard to case. Which field of a name counts when several are
there is the reader's choice: `first?` for a request, `last?` for a part.
-/

namespace Intake

/-- Header fields in the order in which they were given. -/
abbrev Headers := List (String × Bytes)

namespace Headers

/-- Whether a field has the given lower-case name. -/
def named (name : String) (field : String × Bytes) : Bool :=
  field.1.toLower == name

/-- The value of the first field with the given lower-case name. -/
def first? (headers : Headers) (name : String) : Option Bytes :=
  (headers.find? (named name)).map Prod.snd

/-- The value of the last field with the given lower-case name. -/
def last? (headers : Headers) (name : String) : Option Bytes :=
  (headers.reverse.find? (named name)).map Prod.snd

/-- The fields without those of the given lower-case name. -/
def without (headers : Headers) (name : String) : Headers :=
  headers.filter fun field => !named name field

end Headers

end Intake
