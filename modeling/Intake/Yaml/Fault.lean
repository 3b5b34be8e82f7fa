import Intake.Setting
import Intake.Yaml.Place

/-!
Why a document is refused.
-/

namespace Intake.Yaml

/-- What was being read. -/
inductive Task where
  | token
  | simpleKey
  | quotedScalar
  /-- A quoted scalar, at an escape in it. -/
  | escape
  | plainScalar
  | blockScalar
  | blockNode
  | bracketedNode
  | blockMapping
  | blockSequence
  | bracketedSequence
  | bracketedMapping
deriving DecidableEq, Repr

/-- How a message names what was being read. -/
def Task.described : Task → String
  | token => "while scanning for the next token"
  | simpleKey => "while scanning a simple key"
  | quotedScalar => "while scanning a quoted scalar"
  | escape => "while parsing a quoted scalar"
  | plainScalar => "while scanning a plain scalar"
  | blockScalar => "while scanning a block scalar"
  | blockNode => "while parsing a block node"
  | bracketedNode => "while parsing a flow node"
  | blockMapping => "while parsing a block mapping"
  | blockSequence => "while parsing a block collection"
  | bracketedSequence => "while parsing a flow sequence"
  | bracketedMapping => "while parsing a flow mapping"

/-- What is wrong at a place. -/
inductive Problem where
  /-- No token starts with the character. -/
  | strayCharacter
  /-- What stands where a key must be has no colon behind it. -/
  | noColon
  | strayDash
  | strayKey
  | strayValue
  /-- A document starts or ends within quotes. -/
  | markerInQuotes
  | unclosedQuote
  | unknownEscape
  | noHexDigits
  | noCharacter
  /-- A colon within brackets touches a word and a bracket. -/
  | tightColon
  /-- A tab stands in front of where a further line of a scalar may start. -/
  | tabInMargin
  /-- A block scalar says that it is not indented. -/
  | noIndentation
  | noLineEnd
  /-- A tab stands where a block scalar is to be indented. -/
  | tabInIndentation
  | noNode
  | noKey
  | noDash
  | unclosedSequence
  | unclosedMapping
deriving DecidableEq, Repr

/-- What a message says of a problem. -/
def Problem.described : Problem → String
  | strayCharacter => "found character that cannot start any token"
  | noColon => "could not find expected ':'"
  | strayDash => "block sequence entries are not allowed in this context"
  | strayKey => "mapping keys are not allowed in this context"
  | strayValue => "mapping values are not allowed in this context"
  | markerInQuotes => "found unexpected document indicator"
  | unclosedQuote => "found unexpected end of stream"
  | unknownEscape => "found unknown escape character"
  | noHexDigits => "did not find expected hexdecimal number"
  | noCharacter => "found invalid Unicode character escape code"
  | tightColon => "found unexpected ':'"
  | tabInMargin => "found a tab character that violates indentation"
  | noIndentation => "found an indentation indicator equal to 0"
  | noLineEnd => "did not find expected comment or line break"
  | tabInIndentation => "found a tab character where an indentation space is expected"
  | noNode => "did not find expected node content"
  | noKey => "did not find expected key"
  | noDash => "did not find expected '-' indicator"
  | unclosedSequence => "did not find expected ',' or ']'"
  | unclosedMapping => "did not find expected ',' or '\x7d'"

/-- Why a document is refused. -/
inductive Fault where
  /-- It is no text. -/
  | notText
  /-- It has a control character in it, behind some octets. -/
  | controlCharacter (position : Nat)
  /-- There is a problem at a place, in what started at another. -/
  | malformed (problem : Problem) (place : Place) (task : Option (Task × Place))
  /-- An anchor, an alias, a tag or a directive stands at a place; none is understood. -/
  | unsupported (place : Place)
  /-- It is something else than a mapping. -/
  | notAMapping (found : Setting.Shape) (place : Place)
  /-- A key of the mapping at a path is no scalar. The mapping of the document has no path. -/
  | notAKey (path : Option String) (found : Setting.Shape) (place : Place)
  /-- Collections are nested too deeply. -/
  | tooDeep (place : Place)
  /-- Something follows the document. -/
  | furtherDocument
deriving DecidableEq, Repr

/-! ## What messages say -/

/-- A number with a point in it, unless it is infinite or none. -/
def withPoint (text : String) : String :=
  if text.toList.all fun c => c.isDigit || c == '-' then text ++ ".0" else text

/-- How a message names a scalar that is no mapping. -/
def describedScalar : Scalar → String
  | .null => "unit value"
  | .bool b => "boolean `" ++ toString b ++ "`"
  | .unsigned n =>
    if fitsUnsigned n then "integer `" ++ toString n ++ "`" else wideNumber (toString n) "u128"
  | .signed i =>
    if fitsSigned i then "integer `" ++ toString i ++ "`" else wideNumber (toString i) "i128"
  | .double d => "floating point `" ++ withPoint d.display ++ "`"
  | .text s => "string " ++ Text.quoted s

/-- How a message names what is no mapping. -/
def described : Setting.Shape → String
  | .scalar value => describedScalar value
  | .sequence => "sequence"
  | .mapping => "map"

/-- What was being read, and where it started, unless that is the place of the problem. -/
def describedTask (problemPlace : Place) : Option (Task × Place) → String
  | none => ""
  | some (task, place) =>
    ", " ++ task.described ++
      if place.line = problemPlace.line ∧ place.column = problemPlace.column then ""
      else place.described

/-- Why a document is refused, for people. -/
def Fault.message : Fault → String
  | notText => "stream did not contain valid UTF-8"
  | controlCharacter position =>
    "control characters are not allowed" ++
      if position = 0 then "" else " at position " ++ toString position
  | malformed problem place task =>
    problem.described ++ place.described ++ describedTask place task
  | unsupported place => "found unsupported construct" ++ place.described
  | notAMapping found place =>
    "invalid type: " ++ described found ++ ", expected a map" ++ place.described
  | notAKey path found place =>
    ((path.map (· ++ ": ")).getD "") ++
      "invalid type: " ++ described found ++ ", expected a string" ++ place.described
  | tooDeep place => "recursion limit exceeded" ++ place.described
  | furtherDocument =>
    "deserializing from YAML containing more than one document is not supported"

end Intake.Yaml
