import Intake.Yaml.Fault
import Intake.Yaml.Folding

/-!
Scalars without quotes.

A plain scalar ends at a colon behind which a word ends, at a number sign behind a gap, and
within brackets at a comma or bracket. Its further lines, which are folded, start behind the
margin; within brackets they may start anywhere.
-/

namespace Intake.Yaml

/-- Whether a character ends a plain scalar within brackets. -/
def isBracket (c : Char) : Bool :=
  [',', '[', ']', '\x7b', '\x7d'].contains c

/-- Whether a plain scalar may start with a character, whatever follows. -/
def startsPlain (c : Char) : Bool :=
  !isGap c && !isBreak c && !isBracket c &&
    !(['-', '?', ':', '#', '&', '*', '!', '|', '>', '\'', '"', '%', '@', '\x60'].contains c)

/-- Whether a plain scalar starts here. -/
def plainAhead (bracketed : Bool) : List Char → Bool
  | [] => false
  | c :: rest =>
    startsPlain c || (c == '-' && !rest.head?.any isGap) ||
      (!bracketed && (c == '?' || c == ':') && !wordEnds rest)

/-- Whether a colon is here that may not stand in front of what follows it. -/
def tightColonAhead (bracketed : Bool) : List Char → Bool
  | ':' :: c :: _ => bracketed && (c == '?' || isBracket c)
  | _ => false

/-- Whether a word of a plain scalar is over in front of these characters. -/
def plainEnds (bracketed : Bool) : List Char → Bool
  | [] => true
  | c :: rest =>
    isGap c || isBreak c || (c == ':' && wordEnds rest) || (bracketed && isBracket c)

/-- Reads a word behind the part `word` of it, the last character first: all of it, and what
follows. A colon that may not be where it is gives its place. -/
def readWord (bracketed : Bool) (word : List Char) (place : Place) :
    List Char → Except Place (List Char × Cursor)
  | [] => .ok (word, ⟨place, []⟩)
  | c :: rest =>
    if tightColonAhead bracketed (c :: rest) then .error place
    else if plainEnds bracketed (c :: rest) then .ok (word, ⟨place, c :: rest⟩)
    else readWord bracketed (c :: word) (place.right c) rest

/-- Reads the rest of a scalar that started at a place, behind the text `done` and a gap, within
as many steps as `fuel` allows: its text, the last character first, whether it is followed by
a line end that was read, and what follows. -/
def readPlain (fuel : Nat) (bracketed : Bool) (margin : Nat) (start : Place)
    (done : List Char) (gap : Gap) (cursor : Cursor) :
    Except Fault (List Char × Bool × Cursor) :=
  let refuse (problem : Problem) (place : Place) :=
    .error (.malformed problem place (some (.plainScalar, start)))
  match fuel with
  | 0 => .ok (done, gap.passesLine, cursor)
  | fuel + 1 =>
    if cursor.isMarked || cursor.rest.head? = some '#' then .ok (done, gap.passesLine, cursor)
    else
      match readWord bracketed [] cursor.place cursor.rest with
      | .error place => refuse .tightColon place
      | .ok ([], next) => .ok (done, gap.passesLine, next)
      | .ok (word, next) =>
        let done := word ++ gap.text.reverse ++ done
        let (gap, after) := Gap.read margin {} next.place next.rest
        match gap.strayTab with
        | some place => refuse .tabInMargin place
        | none =>
          if !bracketed && after.place.column < margin then .ok (done, gap.passesLine, after)
          else if gap.passesLine || !gap.blanks.isEmpty then
            readPlain fuel bracketed margin start done gap after
          else .ok (done, false, after)

/-- Reads the scalar that starts here, and whether a line end behind it was read, too. -/
def plainScalar (fuel : Nat) (bracketed : Bool) (margin : Nat) (cursor : Cursor) :
    Except Fault (String × Bool × Cursor) :=
  (readPlain fuel bracketed margin cursor.place [] {} cursor).map fun (text, rest) =>
    (String.ofList text.reverse, rest)

end Intake.Yaml
