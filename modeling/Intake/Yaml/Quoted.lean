import Intake.Text.Escape
import Intake.Yaml.Fault
import Intake.Yaml.Folding

/-!
Scalars between quotes.

Between single quotes, a single quote is written twice and everything else stands for
itself. Between double quotes, a backslash starts an escape. The lines of a quoted scalar are
folded.
-/

namespace Intake.Yaml

/-- What a letter behind a backslash stands for, if it takes no digits. -/
def escaped? : Char → Option Char
  | '0' => some '\x00'
  | 'a' => some '\x07'
  | 'b' => some '\x08'
  | 't' => some '\t'
  | '\t' => some '\t'
  | 'n' => some '\n'
  | 'v' => some '\x0b'
  | 'f' => some '\x0c'
  | 'r' => some '\r'
  | 'e' => some '\x1b'
  | ' ' => some ' '
  | '"' => some '"'
  | '/' => some '/'
  | '\\' => some '\\'
  | 'N' => some '\u0085'
  | '_' => some '\u00a0'
  | 'L' => some '\u2028'
  | 'P' => some '\u2029'
  | _ => none

/-- The escapes between double quotes. -/
def escapes : Text.Escapes where
  char? := escaped?
  digits? := fun
    | 'x' => some 2
    | 'u' => some 4
    | 'U' => some 8
    | _ => none

/-- The quotes that a scalar may stand between. -/
inductive Quote where
  | single
  | double
deriving DecidableEq, Repr

/-- What is next between quotes. -/
inductive QuotedStep where
  /-- The end of the text, which should not be here. -/
  | nothing
  /-- The closing quote. -/
  | close
  /-- A character, written as some characters. -/
  | char (c : Char) (width : Nat)
  /-- A gap between words. -/
  | gap
  /-- A backslash that joins a line to the next one. -/
  | join
  /-- A problem behind some characters. -/
  | problem (problem : Problem) (offset : Nat)

/-- The step for a backslash, behind which some characters follow. -/
def escapeStep : List Char → QuotedStep
  | [] => .problem .unknownEscape 0
  | c :: rest =>
    if isBreak c then .join
    else
      match escapes.char? c, escapes.digits? c with
      | some character, _ => .char character 2
      | none, none => .problem .unknownEscape 0
      | none, some count =>
        match Text.readBase 16 (rest.take count) with
        | none => .problem .noHexDigits 2
        | some n =>
          if rest.length < count then .problem .noHexDigits 2
          else if n.isValidChar then .char (Char.ofNat n) (2 + count)
          else .problem .noCharacter 2

/-- The next step between quotes. -/
def quotedStep (quote : Quote) : List Char → QuotedStep
  | [] => .nothing
  | c :: rest =>
    if isGap c || isBreak c then .gap
    else
      match quote with
      | .single =>
        if c != '\'' then .char c 1
        else if rest.head? = some '\'' then .char '\'' 2
        else .close
      | .double =>
        if c = '"' then .close
        else if c = '\\' then escapeStep rest
        else .char c 1

/-- Reads the rest of a scalar that started at a place, within as many steps as `fuel` allows:
its text, the last character first, and what follows the closing quote. The text so far is
`done`. -/
def readQuoted (fuel : Nat) (quote : Quote) (start : Place) (done : List Char)
    (cursor : Cursor) : Except Fault (List Char × Cursor) :=
  let refuse (problem : Problem) := .error (.malformed problem cursor.place
    (some (.quotedScalar, start)))
  match fuel with
  | 0 => refuse .unclosedQuote
  | fuel + 1 =>
    if cursor.isMarked then refuse .markerInQuotes
    else
      match quotedStep quote cursor.rest with
      | .nothing => refuse .unclosedQuote
      | .close => .ok (done, cursor.skip 1)
      | .char c width => readQuoted fuel quote start (c :: done) (cursor.skip width)
      | .gap =>
        let (gap, next) := Gap.read 0 {} cursor.place cursor.rest
        readQuoted fuel quote start (gap.text.reverse ++ done) next
      | .join =>
        let (gap, next) := Gap.readJoined (cursor.skip 1)
        readQuoted fuel quote start (gap.text.reverse ++ done) next
      | .problem problem offset =>
        .error (.malformed problem (cursor.skip offset).place (some (.escape, start)))

/-- Reads the scalar whose opening quote is here. -/
def quotedScalar (fuel : Nat) (quote : Quote) (cursor : Cursor) :
    Except Fault (String × Cursor) :=
  (readQuoted fuel quote cursor.place [] (cursor.skip 1)).map fun (text, next) =>
    (String.ofList text.reverse, next)

end Intake.Yaml
