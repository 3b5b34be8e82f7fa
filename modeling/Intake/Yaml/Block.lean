import Intake.Yaml.Fault

/-!
Block scalars: the lines below a bar or a greater-than sign that are indented.

Behind the indicator a sign may tell what becomes of the line ends at the end of the scalar, and
a digit how deep its lines are indented; otherwise the first line that is not empty tells that.
Behind a bar lines are kept as they are, behind a greater-than sign they are folded, but for
those that start with a blank and for the gaps around them.
-/

namespace Intake.Yaml

/-- What becomes of the line ends at the end of a scalar. -/
inductive Chomping where
  /-- They are dropped. -/
  | strip
  /-- One of them is kept. -/
  | clip
  | keep
deriving DecidableEq, Repr

/-- What the first line of a block scalar says. -/
structure BlockHeader where
  chomping : Chomping
  /-- How much deeper than what is around it the scalar is indented. -/
  deeper : Option Nat

/-- The chomping that a sign asks for. -/
def chomping? (cs : List Char) : Option Chomping :=
  match cs with
  | '+' :: _ => some .keep
  | '-' :: _ => some .strip
  | _ => none

/-- The digit that comes first. -/
def digit? (cs : List Char) : Option Nat :=
  match cs with
  | c :: _ => if c.isDigit then some (c.toNat - 48) else none
  | [] => none

/-- Reads the sign and the digit behind the indicator, in any order. -/
def readHeader (refuse : Problem → Place → Fault) (cursor : Cursor) :
    Except Fault (BlockHeader × Cursor) :=
  let behindSign := if (chomping? cursor.rest).isSome then cursor.skip 1 else cursor
  match digit? behindSign.rest with
  | none => .ok (⟨(chomping? cursor.rest).getD .clip, none⟩, behindSign)
  | some 0 => .error (refuse .noIndentation behindSign.place)
  | some deeper =>
    let behindDigit := behindSign.skip 1
    match chomping? cursor.rest, chomping? behindDigit.rest with
    | some chomping, _ => .ok (⟨chomping, some deeper⟩, behindDigit)
    | none, some chomping => .ok (⟨chomping, some deeper⟩, behindDigit.skip 1)
    | none, none => .ok (⟨.clip, some deeper⟩, behindDigit)

/-- Goes past the first line, on which only a comment may follow. -/
def leaveHeader (refuse : Problem → Place → Fault) (cursor : Cursor) : Except Fault Cursor :=
  let next := Cursor.skipGaps cursor.place cursor.rest
  let next := if next.rest.head? = some '#' then Cursor.skipLine next.place next.rest else next
  if lineEnds next.rest then .ok next.skipBreak else .error (refuse .noLineEnd next.place)

/-- The lines in front of the next one with content. -/
structure EmptyLines where
  /-- What their ends are read as, the last one first. -/
  breaks : List Char
  /-- The largest column that blanks reach on them and on the next line. -/
  widest : Nat

/-- Reads empty lines behind those that were read, and the indentation of the next one, of which
no tab may be a part. -/
def readEmptyLines (indent : Option Nat) (refuse : Problem → Place → Fault) (done : EmptyLines)
    (place : Place) : List Char → Except Fault (EmptyLines × Cursor)
  | [] => .ok ({ done with widest := max done.widest place.column }, ⟨place, []⟩)
  | '\r' :: '\n' :: rest =>
    readEmptyLines indent refuse ⟨'\n' :: done.breaks, max done.widest place.column⟩
      (place.below 2) rest
  | c :: rest =>
    let inMargin := indent.all (place.column < ·)
    if c == ' ' && inMargin then readEmptyLines indent refuse done (place.right c) rest
    else if c == '\t' && inMargin then .error (refuse .tabInIndentation place)
    else if isBreak c then
      readEmptyLines indent refuse ⟨readBreak c :: done.breaks, max done.widest place.column⟩
        (place.below c.utf8Size) rest
    else .ok ({ done with widest := max done.widest place.column }, ⟨place, c :: rest⟩)

/-- A block scalar as far as it was read. -/
structure BlockText where
  /-- Its lines without the last line end, the last character first. -/
  text : List Char
  /-- The end of the last line, unless the text ends with it. -/
  lineEnd : List Char
  /-- The ends of the empty lines behind it, the last one first. -/
  breaks : List Char
  /-- Whether the last line starts with a blank. -/
  startsBlank : Bool

namespace BlockText

/-- What stands between the last line and the next one, of which `blank` tells whether it starts
with a blank; the last character comes first. -/
def join (b : BlockText) (folds blank : Bool) : List Char :=
  if folds && b.lineEnd == ['\n'] && !b.startsBlank && !blank then
    if b.breaks.isEmpty then [' '] else b.breaks
  else b.breaks ++ b.lineEnd

/-- The text of a scalar that is over. -/
def chomped (b : BlockText) : Chomping → List Char
  | .strip => b.text.reverse
  | .clip => (b.lineEnd ++ b.text).reverse
  | .keep => (b.breaks ++ b.lineEnd ++ b.text).reverse

end BlockText

/-- The characters up to the end of the line, in front of others in reverse order. -/
def takeLine (done : List Char) : List Char → List Char
  | [] => done
  | c :: rest => if isBreak c then done else takeLine (c :: done) rest

/-- Reads the lines of a scalar that are indented as far as `indent`, within as many steps as
`fuel` allows. -/
def readBlockLines (fuel : Nat) (folds : Bool) (indent : Nat) (refuse : Problem → Place → Fault)
    (b : BlockText) (cursor : Cursor) : Except Fault (BlockText × Cursor) :=
  match fuel with
  | 0 => .ok (b, cursor)
  | fuel + 1 =>
    if cursor.place.column ≠ indent ∨ cursor.rest.isEmpty then .ok (b, cursor)
    else
      let blank := cursor.rest.head?.any isGap
      let text := takeLine (b.join folds blank ++ b.text) cursor.rest
      let next := Cursor.skipLine cursor.place cursor.rest
      let lineEnd := (next.rest.head?.map readBreak).toList
      let below := next.skipBreak
      match readEmptyLines (some indent) refuse ⟨[], 0⟩ below.place below.rest with
      | .error fault => .error fault
      | .ok (empty, after) =>
        readBlockLines fuel folds indent refuse ⟨text, lineEnd, empty.breaks, blank⟩ after

/-- Reads the block scalar whose indicator is here, in a collection whose content starts at the
margin. -/
def blockScalar (fuel : Nat) (folds : Bool) (margin : Nat) (cursor : Cursor) :
    Except Fault (String × Cursor) := do
  let refuse problem place := .malformed problem place (some (.blockScalar, cursor.place))
  let (header, next) ← readHeader refuse (cursor.skip 1)
  let next ← leaveHeader refuse next
  let given := header.deeper.map fun deeper => margin - 1 + deeper
  let (empty, next) ← readEmptyLines given refuse ⟨[], 0⟩ next.place next.rest
  let indent := given.getD (max (max empty.widest margin) 1)
  let (b, next) ← readBlockLines fuel folds indent refuse ⟨[], [], empty.breaks, false⟩ next
  return (String.ofList (b.chomped header.chomping), next)

end Intake.Yaml
