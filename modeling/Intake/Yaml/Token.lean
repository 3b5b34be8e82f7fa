import Intake.Yaml.Block
import Intake.Yaml.Plain
import Intake.Yaml.Quoted

/-!
Tokens: the scalars of a document, and what tells how they are put together.

Lines and columns become tokens of their own: a collection whose items stand one below the
other is opened where the column of its first item lies to the right of that of the collection
around it, and closed where a line starts further to the left. A scalar or a collection in
brackets is a key when a colon follows it on the same line, and not too far on; what announces
the key is then put in front of it. Until that is decided, the tokens from there on are held
back.
-/

namespace Intake.Yaml

/-! ## Tokens -/

inductive TokenKind where
  | documentStart
  | documentEnd
  /-- The start of a collection whose items stand one below the other. -/
  | sequenceStart
  | mappingStart
  /-- The end of such a collection. -/
  | blockEnd
  | openSequence
  | closeSequence
  | openMapping
  | closeMapping
  /-- A dash in front of an item. -/
  | dash
  | comma
  /-- What announces a key, and what announces its value. -/
  | key
  | value
  | scalar (text : String) (plain : Bool)
  | textEnd
deriving DecidableEq, Repr

structure Token where
  kind : TokenKind
  place : Place
deriving DecidableEq, Repr

/-- The tokens of a text, up to the fault that keeps it from being read on, if there is one. -/
structure Tokens where
  list : List Token
  fault : Option Fault

/-! ## The state between two tokens -/

/-- What may turn out to be a key. -/
structure PossibleKey where
  place : Place
  /-- How many tokens precede it. -/
  number : Nat
  /-- Whether nothing but a key may be here. -/
  required : Bool

/-- Where the reading of tokens stands. -/
structure Layout where
  cursor : Cursor
  /-- What was read, the last token first. -/
  tokens : List Token
  /-- How many tokens were read. -/
  count : Nat
  /-- The columns of the collections that are open outside of brackets, the innermost first. -/
  columns : List Nat
  /-- What may turn out to be a key outside of brackets. -/
  lineKey : Option PossibleKey
  /-- What may turn out to be a key within each of the open brackets, the innermost first. -/
  bracketKeys : List (Option PossibleKey)
  /-- Whether a key may come next. -/
  keyAllowed : Bool

namespace Layout

/-- The state in front of a text. -/
def ofText (text : List Char) : Layout where
  cursor := ⟨.start, text⟩
  tokens := []
  count := 0
  columns := []
  lineKey := none
  bracketKeys := []
  keyAllowed := true

def place (l : Layout) : Place :=
  l.cursor.place

/-- Whether brackets are open. -/
def bracketed (l : Layout) : Bool :=
  !l.bracketKeys.isEmpty

/-- The least column at which the content of the innermost collection may stand. -/
def margin (l : Layout) : Nat :=
  match l.columns with
  | [] => 0
  | column :: _ => column + 1

/-- Adds a token. -/
def emit (l : Layout) (kind : TokenKind) (place : Place) : Layout :=
  { l with tokens := ⟨kind, place⟩ :: l.tokens, count := l.count + 1 }

/-- Adds the token that some characters make up. -/
def take (l : Layout) (kind : TokenKind) (width : Nat) : Layout :=
  { l.emit kind l.place with cursor := l.cursor.skip width }

/-! ### Keys -/

/-- What may turn out to be a key of the innermost collection. -/
def possible (l : Layout) : Option PossibleKey :=
  l.bracketKeys.head?.getD l.lineKey

/-- Changes what may turn out to be a key of the innermost collection. -/
def withPossible (l : Layout) (key : Option PossibleKey) : Layout :=
  match l.bracketKeys with
  | [] => { l with lineKey := key }
  | _ :: keys => { l with bracketKeys := key :: keys }

/-- Refuses what is no key after all. -/
def refuseKey (l : Layout) (k : PossibleKey) : Fault :=
  .malformed .noColon l.place (some (.simpleKey, k.place))

/-- How many octets of a key may precede its colon. -/
def maxKeyOctets : Nat := 1024

/-- Whether what may be a key has become too long for one. -/
def isStale (l : Layout) (k : PossibleKey) : Bool :=
  k.place.line < l.place.line || k.place.octets + maxKeyOctets < l.place.octets

/-- Gives up a possible key, if it is one that is stale. -/
def freshen (l : Layout) : Option PossibleKey → Except Fault (Option PossibleKey)
  | none => .ok none
  | some k =>
    if !l.isStale k then .ok (some k)
    else if k.required then .error (l.refuseKey k)
    else .ok none

/-- Gives up the keys that matter now if they are stale: the one outside of brackets, which
alone may be required, and that of the innermost collection. -/
def dropStale (l : Layout) : Except Fault Layout := do
  let lineKey ← l.freshen l.lineKey
  let l := { l with lineKey }
  return l.withPossible (← l.freshen l.possible)

/-- Gives up the possible key. -/
def dropKey (l : Layout) : Except Fault Layout :=
  match l.possible with
  | some k => if k.required then .error (l.refuseKey k) else .ok (l.withPossible none)
  | none => .ok l

/-- Notes that what comes next may be a key. -/
def saveKey (l : Layout) : Except Fault Layout :=
  if l.keyAllowed then
    let required := !l.bracketed && l.columns.head? == some l.place.column
    l.dropKey.map fun l => l.withPossible (some ⟨l.place, l.count, required⟩)
  else .ok l

/-! ### Collections outside of brackets -/

/-- Opens a collection at the place of its first item, unless it is open. -/
def openBlock (l : Layout) (kind : TokenKind) : Layout :=
  if l.bracketed || l.place.column < l.margin then l
  else { l.emit kind l.place with columns := l.place.column :: l.columns }

/-- Closes the collections that lie to the right of a column. -/
def closeAbove (l : Layout) (column : Nat) : List Nat → Layout
  | [] => { l with columns := [] }
  | innermost :: columns =>
    if column < innermost then (l.emit .blockEnd l.place).closeAbove column columns
    else { l with columns := innermost :: columns }

/-- Closes the collections that do not reach the column of the place. -/
def closeBlocks (l : Layout) : Layout :=
  if l.bracketed then l else l.closeAbove l.place.column l.columns

/-- Closes all collections. -/
def closeAll (l : Layout) : Layout :=
  if l.bracketed then l
  else { l.columns.foldl (fun l _ => l.emit .blockEnd l.place) l with columns := [] }

/-! ### Tokens of each kind -/

/-- Takes the end of the text, which is seen as the start of a line. -/
def takeEnd (l : Layout) : Except Fault Layout := do
  let l ← { l with cursor := ⟨l.place.newLine, []⟩ }.closeAll.dropKey
  return { l.emit .textEnd l.place with keyAllowed := false }

/-- Takes the start or the end of a document. -/
def takeMark (l : Layout) (kind : TokenKind) : Except Fault Layout :=
  l.closeAll.dropKey.map fun l => { l.take kind 3 with keyAllowed := false }

/-- Takes an opening bracket. -/
def takeOpening (l : Layout) (kind : TokenKind) : Except Fault Layout :=
  l.saveKey.map fun l =>
    { l.take kind 1 with bracketKeys := none :: l.bracketKeys, keyAllowed := true }

/-- Takes a closing bracket. -/
def takeClosing (l : Layout) (kind : TokenKind) : Except Fault Layout :=
  l.dropKey.map fun l =>
    { l.take kind 1 with bracketKeys := l.bracketKeys.tail, keyAllowed := false }

/-- Takes a comma. -/
def takeComma (l : Layout) : Except Fault Layout :=
  l.dropKey.map fun l => { l.take .comma 1 with keyAllowed := true }

/-- Opens a collection for an indicator, which outside of brackets may only stand where a key
may. -/
def openFor (l : Layout) (kind : TokenKind) (problem : Problem) : Except Fault Layout :=
  if l.bracketed then .ok l
  else if l.keyAllowed then .ok (l.openBlock kind)
  else .error (.malformed problem l.place none)

/-- Takes a dash. -/
def takeDash (l : Layout) : Except Fault Layout := do
  let l ← l.openFor .sequenceStart .strayDash
  let l ← l.dropKey
  return { l.take .dash 1 with keyAllowed := true }

/-- Takes a question mark. -/
def takeKey (l : Layout) : Except Fault Layout := do
  let l ← l.openFor .mappingStart .strayKey
  let l ← l.dropKey
  return { l.take .key 1 with keyAllowed := !l.bracketed }

/-- Puts what announces a key in front of it, and what opens the mapping if it is the first. -/
def announce (l : Layout) (k : PossibleKey) : Layout :=
  let opens := !l.bracketed && l.margin ≤ k.place.column
  let opening := if opens then [⟨.mappingStart, k.place⟩] else []
  let columns := if opens then k.place.column :: l.columns else l.columns
  let recent := l.count - k.number
  { l.withPossible none with
    tokens := l.tokens.take recent ++ ⟨.key, k.place⟩ :: opening ++ l.tokens.drop recent
    count := l.count + 1 + opening.length
    columns, keyAllowed := false }

/-- Takes a colon: what is possibly a key is one. -/
def takeValue (l : Layout) : Except Fault Layout :=
  match l.possible with
  | some k => .ok ((l.announce k).take .value 1)
  | none =>
    (l.openFor .mappingStart .strayValue).map fun l =>
      { l.take .value 1 with keyAllowed := !l.bracketed }

/-- Takes a scalar between quotes. -/
def takeQuoted (l : Layout) (fuel : Nat) (quote : Quote) : Except Fault Layout := do
  let l ← l.saveKey
  let (text, cursor) ← quotedScalar fuel quote l.cursor
  return { l.emit (.scalar text false) l.place with cursor, keyAllowed := false }

/-- Takes a scalar without quotes. -/
def takePlain (l : Layout) (fuel : Nat) : Except Fault Layout := do
  let l ← l.saveKey
  let (text, passesLine, cursor) ← plainScalar fuel l.bracketed l.margin l.cursor
  return { l.emit (.scalar text true) l.place with cursor, keyAllowed := passesLine }

/-- Takes a block scalar. -/
def takeBlock (l : Layout) (fuel : Nat) (folds : Bool) : Except Fault Layout := do
  let l ← l.dropKey
  let (text, cursor) ← blockScalar fuel folds l.margin l.cursor
  return { l.emit (.scalar text false) l.place with cursor, keyAllowed := true }

/-- Whether a character starts an anchor, an alias, a tag or a directive. -/
def isUnsupported (l : Layout) (c : Char) : Bool :=
  ['&', '*', '!'].contains c || (l.place.column == 0 && c == '%')

/-- Takes the token that starts here. -/
def takeToken (l : Layout) (fuel : Nat) : Except Fault Layout :=
  match l.cursor.rest with
  | [] => l.takeEnd
  | c :: rest =>
    if l.cursor.isMarked then
      l.takeMark (if c = '-' then .documentStart else .documentEnd)
    else if c = '[' then l.takeOpening .openSequence
    else if c = '\x7b' then l.takeOpening .openMapping
    else if c = ']' then l.takeClosing .closeSequence
    else if c = '\x7d' then l.takeClosing .closeMapping
    else if c = ',' then l.takeComma
    else if c = '-' ∧ wordEnds rest then l.takeDash
    else if c = '?' ∧ (l.bracketed || wordEnds rest) then l.takeKey
    else if c = ':' ∧ (l.bracketed || wordEnds rest) then l.takeValue
    else if c = '|' ∧ !l.bracketed then l.takeBlock fuel false
    else if c = '>' ∧ !l.bracketed then l.takeBlock fuel true
    else if c = '\'' then l.takeQuoted fuel .single
    else if c = '"' then l.takeQuoted fuel .double
    else if plainAhead l.bracketed (c :: rest) then l.takePlain fuel
    else if l.isUnsupported c then .error (.unsupported l.place)
    else .error (.malformed .strayCharacter l.place (some (.token, l.place)))

/-- Goes to the next token and takes it. -/
def next (l : Layout) (fuel : Nat) : Except Fault Layout := do
  let (cursor, keyAllowed) :=
    Cursor.toToken l.bracketed l.keyAllowed false l.place l.cursor.rest
  let l ← { l with cursor, keyAllowed }.dropStale
  l.closeBlocks.takeToken fuel

/-- The tokens that are not held back by what may turn out to be a key. -/
def released (l : Layout) : List Token :=
  let held := ((l.lineKey :: l.bracketKeys).filterMap id).filter fun k => !l.isStale k
  l.tokens.reverse.take ((held.map PossibleKey.number).foldl min l.count)

/-- Whether all tokens were read. -/
def isOver (l : Layout) : Bool :=
  l.tokens.head?.any fun token => token.kind == .textEnd

/-- Reads on, within as many steps as `fuel` allows. A fault keeps back what was held back in
front of the step that met it, even if the step has decided about that. -/
def readAll (l : Layout) (fuel : Nat) : Tokens :=
  match fuel with
  | 0 => ⟨l.released, none⟩
  | fuel + 1 =>
    match l.next fuel >>= Layout.dropStale with
    | .error fault => ⟨l.released, some fault⟩
    | .ok l => if l.isOver then ⟨l.tokens.reverse, none⟩ else l.readAll fuel

end Layout

/-- The tokens of a text. -/
def Tokens.ofText (text : List Char) : Tokens :=
  (Layout.ofText text).readAll (text.length + 2)

end Intake.Yaml
