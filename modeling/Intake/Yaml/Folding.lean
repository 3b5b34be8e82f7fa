import Intake.Yaml.Place

/-!
Folding: what is read for the gap between two words of a scalar.

Within a line a gap stands for itself. A single line end between two words is read as a blank;
of several, the first is dropped and the others are kept. Blanks around line ends never count.
A line end behind a backslash joins the lines without a blank.
-/

namespace Intake.Yaml

/-- What stands between two words. -/
structure Gap where
  /-- The blanks in front of the first line end, the last one first. -/
  blanks : List Char := []
  /-- What the line ends are read as, the last one first. -/
  breaks : List Char := []
  /-- Whether a line end in front of all this was behind a backslash. -/
  joined : Bool := false
  /-- Where the first tab is that stands in front of the margin of a further line. -/
  strayTab : Option Place := none

namespace Gap

/-- Whether the words stand on different lines. -/
def passesLine (g : Gap) : Bool :=
  g.joined || !g.breaks.isEmpty

/-- What is read for line ends. -/
def folded : List Char → List Char
  | ['\n'] => [' ']
  | '\n' :: breaks => breaks
  | breaks => breaks

/-- What is read for a gap. -/
def text (g : Gap) : List Char :=
  if g.joined then g.breaks.reverse
  else if g.breaks.isEmpty then g.blanks.reverse
  else folded g.breaks.reverse

/-- A gap and a line end behind it. -/
def addBreak (g : Gap) (c : Char) : Gap :=
  { g with breaks := c :: g.breaks }

/-- A gap and a blank or tab behind it, at a place. -/
def addBlank (g : Gap) (margin : Nat) (place : Place) (c : Char) : Gap :=
  if !g.passesLine then { g with blanks := c :: g.blanks }
  else if c = '\t' ∧ place.column < margin then { g with strayTab := g.strayTab <|> some place }
  else g

/-- Reads a gap, behind what was read of it. Further lines start at the margin. -/
def read (margin : Nat) (g : Gap) (place : Place) : List Char → Gap × Cursor
  | [] => (g, ⟨place, []⟩)
  | '\r' :: '\n' :: rest => read margin (g.addBreak '\n') (place.below 2) rest
  | c :: rest =>
    if isBreak c then read margin (g.addBreak (readBreak c)) (place.below c.utf8Size) rest
    else if isGap c then read margin (g.addBlank margin place c) (place.right c) rest
    else (g, ⟨place, c :: rest⟩)

/-- Reads the gap that starts with the end of a line that is joined to the next one. -/
def readJoined (cursor : Cursor) : Gap × Cursor :=
  let next := cursor.skipBreak
  read 0 { joined := true } next.place next.rest

end Gap

end Intake.Yaml
