/-!
Places in a document, and the characters that part its words and lines.

A line ends with a line feed, a carriage return, both, a next-line character, or a line or
paragraph separator. The two separators stay what they are where lines are kept; all other
ends are read as line feeds.
-/

namespace Intake.Yaml

/-! ## Characters -/

/-- Whether a character parts words within a line. -/
def isGap (c : Char) : Bool :=
  c == ' ' || c == '\t'

/-- Whether a character ends a line. -/
def isBreak (c : Char) : Bool :=
  ['\n', '\r', '\u0085', '\u2028', '\u2029'].contains c

/-- What the end of a line is read as. -/
def readBreak (c : Char) : Char :=
  if c = '\u2028' ∨ c = '\u2029' then c else '\n'

/-- Whether no further character of a word is ahead. -/
def wordEnds : List Char → Bool
  | [] => true
  | c :: _ => isGap c || isBreak c

/-- Whether no further character of a line is ahead. -/
def lineEnds : List Char → Bool
  | [] => true
  | c :: _ => isBreak c

/-- The mark that a text may have in front. -/
def byteOrderMark : Char := '\ufeff'

/-! ## Places -/

/-- A place in a text. -/
structure Place where
  /-- How many octets are before it. -/
  octets : Nat
  /-- How many lines are before its own. -/
  line : Nat
  /-- How many characters of its line are before it. -/
  column : Nat
deriving DecidableEq, Repr

namespace Place

/-- The start of a text. -/
def start : Place := ⟨0, 0, 0⟩

/-- The place behind a character within a line. -/
def right (p : Place) (c : Char) : Place :=
  ⟨p.octets + c.utf8Size, p.line, p.column + 1⟩

/-- The start of the next line, behind a line end of some octets. -/
def below (p : Place) (width : Nat) : Place :=
  ⟨p.octets + width, p.line + 1, 0⟩

/-- Where a text is over, seen as the start of a line. -/
def newLine (p : Place) : Place :=
  if p.column = 0 then p else p.below 0

/-- A place, for people, unless it is the start of the text. -/
def described (p : Place) : String :=
  if p.line = 0 ∧ p.column = 0 then ""
  else " at line " ++ toString (p.line + 1) ++ " column " ++ toString (p.column + 1)

end Place

/-! ## What is left of a text -/

/-- What is left of a text, and the place where it starts. -/
structure Cursor where
  place : Place
  rest : List Char

namespace Cursor

/-- Goes some characters further on the line. -/
def skip (c : Cursor) (count : Nat) : Cursor :=
  ⟨(c.rest.take count).foldl Place.right c.place, c.rest.drop count⟩

/-- Goes past a line end. -/
def skipBreak (c : Cursor) : Cursor :=
  match c.rest with
  | '\r' :: '\n' :: rest => ⟨c.place.below 2, rest⟩
  | first :: rest => ⟨c.place.below first.utf8Size, rest⟩
  | [] => c

/-- Whether a document starts or ends here: three hyphens or full stops at the start of a line,
and nothing behind them that makes them a word. -/
def isMarked (c : Cursor) : Bool :=
  c.place.column == 0 && ["---".toList, "...".toList].contains (c.rest.take 3) &&
    wordEnds (c.rest.drop 3)

/-- Goes past gaps. -/
def skipGaps (place : Place) : List Char → Cursor
  | [] => ⟨place, []⟩
  | c :: rest => if isGap c then skipGaps (place.right c) rest else ⟨place, c :: rest⟩

/-- Goes to the end of the line. -/
def skipLine (place : Place) : List Char → Cursor
  | [] => ⟨place, []⟩
  | c :: rest => if isBreak c then ⟨place, c :: rest⟩ else skipLine (place.right c) rest

/-- Goes past what may stand between two tokens: blanks, comments, line ends, and at the start
of a line the byte order mark. A tab may stand there unless a key may come next, which
`keyAllowed` tells; outside of brackets it may after a line end. Also tells whether a key may
come now. -/
def toToken (bracketed keyAllowed inComment : Bool) (place : Place) :
    List Char → Cursor × Bool
  | [] => (⟨place, []⟩, keyAllowed)
  | '\r' :: '\n' :: rest => toToken bracketed (keyAllowed || !bracketed) false (place.below 2) rest
  | c :: rest =>
    if isBreak c then
      toToken bracketed (keyAllowed || !bracketed) false (place.below c.utf8Size) rest
    else if inComment || c == '#' || c == ' ' || (c == '\t' && (bracketed || !keyAllowed)) ||
        (c == byteOrderMark && place.column == 0) then
      toToken bracketed keyAllowed (inComment || c == '#') (place.right c) rest
    else (⟨place, c :: rest⟩, keyAllowed)

end Cursor

end Intake.Yaml
