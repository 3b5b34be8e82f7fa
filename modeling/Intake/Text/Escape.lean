import Intake.Text.Base

/-!
Texts between double quotes, in which a backslash starts an escape.

Which letters may follow a backslash is up to the format: some stand for a character, and
others announce the digits of a code point. Reading ends at the first double quote that is
not escaped.
-/

namespace Intake.Text

/-- The escapes of a format. -/
structure Escapes where
  /-- What a letter stands for, if it takes no digits. -/
  char? : Char → Option Char
  /-- How many digits follow a letter. -/
  digits? : Char → Option Nat

/-- The character with a code point, which is told in base sixteen. -/
def charOfDigits (digits : List Char) : Option Char :=
  match readBase 16 digits with
  | some n => if n.isValidChar then some (Char.ofNat n) else none
  | none => none

namespace Escapes

/-- Reads what follows a backslash: the character, and the rest. -/
def readOne (escapes : Escapes) : List Char → Option (Char × List Char)
  | [] => none
  | c :: rest =>
    match escapes.char? c, escapes.digits? c with
    | some character, _ => some (character, rest)
    | none, some count =>
      if rest.length < count then none
      else (charOfDigits (rest.take count)).map fun character => (character, rest.drop count)
    | none, none => none

theorem length_readOne {escapes : Escapes} {cs rest : List Char} {c : Char}
    (h : escapes.readOne cs = some (c, rest)) : rest.length < cs.length := by
  cases cs with
  | nil => simp [readOne] at h
  | cons d cs =>
    simp only [readOne] at h
    split at h
    · simp only [Option.some.injEq, Prod.mk.injEq] at h
      simp [← h.2]
    · split at h
      · simp at h
      · obtain ⟨character, _, same⟩ := Option.map_eq_some_iff.mp h
        simp only [Prod.mk.injEq] at same
        rw [← same.2]
        simp only [List.length_drop, List.length_cons]
        omega
    · simp at h

/-- Reads up to the closing double quote: the text, and what follows the quote. The
characters that `plain` admits stand for themselves, and no others may. -/
def readQuoted (escapes : Escapes) (plain : Char → Bool) (cs : List Char) :
    Option (List Char × List Char) :=
  match cs with
  | [] => none
  | '"' :: rest => some ([], rest)
  | '\\' :: rest =>
    match _h : escapes.readOne rest with
    | some (c, rest) =>
      (escapes.readQuoted plain rest).map fun (text, after) => (c :: text, after)
    | none => none
  | c :: rest =>
    if plain c then
      (escapes.readQuoted plain rest).map fun (text, after) => (c :: text, after)
    else none
termination_by cs.length
decreasing_by
  · have := length_readOne _h
    simp only [List.length_cons]
    omega
  · simp

end Escapes

end Intake.Text
