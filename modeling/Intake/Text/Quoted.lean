import Intake.Text.Glyph

/-!
Texts in double quotes, as messages show a name that a client chose.

A backslash and a double quote are written behind a backslash, NUL and the three usual
controls by their letter, and every other character without a glyph of its own by its
code point: `\u`, then the lower-case hexadecimal number in braces.
-/

namespace Intake.Text

/-- The digits of a number in lower-case hexadecimal. -/
def hexDigits (n : Nat) : List Char :=
  Nat.toDigits 16 n

/-- A character as it is written between double quotes. -/
def quotedChar (c : Char) : List Char :=
  match c with
  | '\\' => ['\\', '\\']
  | '"' => ['\\', '"']
  | '\n' => ['\\', 'n']
  | '\r' => ['\\', 'r']
  | '\t' => ['\\', 't']
  | '\x00' => ['\\', '0']
  | c =>
    if hasGlyph c then [c]
    else ['\\', 'u', '\x7b'] ++ hexDigits c.toNat ++ ['\x7d']

/-- A text in double quotes. -/
def quoted (s : String) : String :=
  String.ofList ('"' :: s.toList.flatMap quotedChar ++ ['"'])

end Intake.Text
