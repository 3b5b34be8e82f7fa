import Intake.Text.Utf8
import Intake.Yaml.Scalar
import Intake.Yaml.Token

/-!
Documents: what the tokens of a text stand for.

A document is a mapping of texts to settings. Its collections are written with their items one
below the other, or between brackets, in any mixture, and are nested at most 128 deep. The
first thing that is wrong is told, in the order of the text.
-/

namespace Intake.Yaml

/-! ## Nodes -/

/-- What a scalar of a document stands for. -/
def settingOfScalar (text : String) (plain : Bool) : Setting :=
  .scalar .file (if plain then scalarOf text else .text text)

/-- What a node that is left out stands for. -/
def null : Setting :=
  .scalar .file .null

/-- Where a node stands. -/
inductive NodePlace where
  /-- Between brackets. -/
  | bracketed
  /-- Behind a dash, or at the start of a document. -/
  | item
  /-- In a mapping that is not between brackets, where the dashes of a sequence may stand in the
  column of the keys. -/
  | entry
deriving DecidableEq, Repr

/-- The ways to write a collection. -/
inductive Collection where
  /-- A mapping whose entries stand one below the other. -/
  | lines
  /-- A sequence whose items stand one below the other; it is open-ended if its dashes stand in
  the column of the keys around it. -/
  | dashes (openEnded : Bool)
  | bracketedMapping
  | bracketedSequence
deriving DecidableEq, Repr

/-- The shape of a collection. -/
def Collection.shape : Collection → Setting.Shape
  | lines | bracketedMapping => .mapping
  | dashes _ | bracketedSequence => .sequence

/-- The collection that starts with a token. -/
def collection? (position : NodePlace) : TokenKind → Option Collection
  | .openMapping => some .bracketedMapping
  | .openSequence => some .bracketedSequence
  | .mappingStart => if position = .bracketed then none else some .lines
  | .sequenceStart => if position = .bracketed then none else some (.dashes false)
  | .dash => if position = .entry then some (.dashes true) else none
  | _ => none

/-- The fault of a place where no node starts. -/
def noNode (position : NodePlace) (place : Place) : Fault :=
  let task := if position = .bracketed then Task.bracketedNode else Task.blockNode
  .malformed .noNode place (some (task, place))

/-! ## Depth and paths -/

/-- How deeply collections may be nested. -/
def maxDepth : Nat := 128

/-- The depth that is left within a collection that starts at a place. -/
def within (depth : Nat) (place : Place) : Except Fault Nat :=
  match depth with
  | 0 => .error (.tooDeep place)
  | depth + 1 => .ok depth

/-- The path of what a key of the mapping at a path stands for. -/
def keyPath (path : Option String) (key : String) : Option String :=
  some ((path.map (· ++ ".")).getD "" ++ key)

/-- The path of an item of the sequence at a path. -/
def itemPath (path : Option String) (index : Nat) : Option String :=
  some (path.getD "" ++ "[" ++ toString index ++ "]")

/-! ## Reading nodes -/

/-- Reads the key of an entry of the mapping at a path. It may be left out in front of some
tokens. The text has the fault `ending` where its tokens end. -/
def readKey (ending : Fault) (position : NodePlace) (path : Option String)
    (stops : List TokenKind) : List Token → Except Fault (String × List Token)
  | [] => .error ending
  | ⟨kind, place⟩ :: rest =>
    if stops.contains kind then .ok ("", ⟨kind, place⟩ :: rest)
    else
      match kind, collection? position kind with
      | .scalar text _, _ => .ok (text, rest)
      | _, some collection => .error (.notAKey path collection.shape place)
      | _, none => .error (noNode position place)

/-- Reads the key of an entry that stands for itself in a sequence between brackets. Where it is
left out, the token in its place is passed over. -/
def readSoleKey (ending : Fault) (path : Option String) :
    List Token → Except Fault (String × List Token)
  | [] => .error ending
  | token :: rest =>
    if [TokenKind.value, .comma, .closeSequence].contains token.kind then .ok ("", rest)
    else readKey ending .bracketed path [] (token :: rest)

/-- The tokens behind the comma that parts what is next between brackets from what precedes it.
None is needed in front of the closing bracket. -/
def afterComma (ending : Fault) (first : Bool) (close : TokenKind)
    (refuse : Place → Fault) : List Token → Except Fault (List Token)
  | [] => .error ending
  | token :: rest =>
    if first || token.kind = close then .ok (token :: rest)
    else if token.kind = .comma then .ok rest
    else .error (refuse token.place)

mutual

/-- Reads the node at a path, within as many steps as `fuel` allows. It may be left out in front
of some tokens. -/
def readNode (ending : Fault) (fuel depth : Nat) (position : NodePlace) (path : Option String)
    (stops : List TokenKind) (tokens : List Token) : Except Fault (Setting × List Token) :=
  match fuel, tokens with
  | 0, _ => .error ending
  | _, [] => .error ending
  | fuel + 1, ⟨kind, place⟩ :: rest =>
    if stops.contains kind then .ok (null, ⟨kind, place⟩ :: rest)
    else
      match kind, collection? position kind with
      | .scalar text plain, _ => .ok (settingOfScalar text plain, rest)
      | _, none => .error (noNode position place)
      | _, some collection => do
        let depth ← within depth place
        match collection with
        | .lines =>
          let (entries, rest) ← readLines ending fuel depth place path [] rest
          return (.mapping .file entries, rest)
        | .bracketedMapping =>
          let (entries, rest) ← readPairs ending fuel depth place path true [] rest
          return (.mapping .file entries, rest)
        | .dashes openEnded =>
          let inside := if openEnded then ⟨kind, place⟩ :: rest else rest
          let (items, rest) ← readDashes ending fuel depth openEnded place path 0 [] inside
          return (.sequence .file items.reverse, rest)
        | .bracketedSequence =>
          let (items, rest) ← readItems ending fuel depth place path 0 [] rest
          return (.sequence .file items.reverse, rest)

/-- Reads what a key stands for. -/
def readValue (ending : Fault) (fuel depth : Nat) (position : NodePlace) (path : Option String)
    (stops : List TokenKind) (tokens : List Token) : Except Fault (Setting × List Token) :=
  match fuel, tokens with
  | 0, _ => .error ending
  | _, [] => .error ending
  | fuel + 1, token :: rest =>
    if token.kind = .value then readNode ending fuel depth position path stops rest
    else .ok (null, token :: rest)

/-- Reads the entries of a mapping that stand one below the other, behind those that are
`done`. -/
def readLines (ending : Fault) (fuel depth : Nat) (start : Place) (path : Option String)
    (done : Setting.Entries) (tokens : List Token) : Except Fault (Setting.Entries × List Token) :=
  match fuel, tokens with
  | 0, _ => .error ending
  | _, [] => .error ending
  | fuel + 1, token :: rest =>
    match token.kind with
    | .blockEnd => .ok (done, rest)
    | .key => do
      let stops := [.key, .value, .blockEnd]
      let (key, rest) ← readKey ending .entry path stops rest
      let (value, rest) ← readValue ending fuel depth .entry (keyPath path key) stops rest
      readLines ending fuel depth start path (Setting.put key value done) rest
    | _ => .error (.malformed .noKey token.place (some (.blockMapping, start)))

/-- Reads the items of a sequence that stand one below the other, behind `count` items that are
`done`, of which the last one is first. -/
def readDashes (ending : Fault) (fuel depth : Nat) (openEnded : Bool) (start : Place)
    (path : Option String) (count : Nat) (done : List Setting) (tokens : List Token) :
    Except Fault (List Setting × List Token) :=
  match fuel, tokens with
  | 0, _ => .error ending
  | _, [] => .error ending
  | fuel + 1, token :: rest =>
    match token.kind with
    | .dash => do
      let stops := if openEnded then [.dash, .key, .value, .blockEnd] else [.dash, .blockEnd]
      let (item, rest) ←
        readNode ending fuel depth .item (itemPath path count) stops rest
      readDashes ending fuel depth openEnded start path (count + 1) (item :: done) rest
    | kind =>
      if openEnded then .ok (done, token :: rest)
      else if kind = .blockEnd then .ok (done, rest)
      else .error (.malformed .noDash token.place (some (.blockSequence, start)))

/-- Reads the entries of a mapping between brackets, behind those that are `done`. -/
def readPairs (ending : Fault) (fuel depth : Nat) (start : Place) (path : Option String)
    (first : Bool) (done : Setting.Entries) (tokens : List Token) :
    Except Fault (Setting.Entries × List Token) :=
  match fuel with
  | 0 => .error ending
  | fuel + 1 => do
    let refuse place := .malformed .unclosedMapping place (some (.bracketedMapping, start))
    match ← afterComma ending first .closeMapping refuse tokens with
    | [] => .error ending
    | token :: rest =>
      match token.kind with
      | .closeMapping => return (done, rest)
      | .key =>
        let (key, rest) ←
          readKey ending .bracketed path [.value, .comma, .closeMapping] rest
        let (value, rest) ←
          readValue ending fuel depth .bracketed (keyPath path key) [.comma, .closeMapping] rest
        readPairs ending fuel depth start path false (Setting.put key value done) rest
      | _ =>
        let (key, rest) ← readKey ending .bracketed path [] (token :: rest)
        readPairs ending fuel depth start path false (Setting.put key null done) rest

/-- Reads the items of a sequence between brackets, behind `count` items that are `done`, of
which the last one is first. An entry of a mapping that stands there is a mapping of its
own. -/
def readItems (ending : Fault) (fuel depth : Nat) (start : Place) (path : Option String)
    (count : Nat) (done : List Setting) (tokens : List Token) :
    Except Fault (List Setting × List Token) :=
  match fuel with
  | 0 => .error ending
  | fuel + 1 => do
    let refuse place := .malformed .unclosedSequence place (some (.bracketedSequence, start))
    let here := itemPath path count
    match ← afterComma ending done.isEmpty .closeSequence refuse tokens with
    | [] => .error ending
    | token :: rest =>
      match token.kind with
      | .closeSequence => return (done, rest)
      | .key =>
        let depth' ← within depth token.place
        let (key, rest) ← readSoleKey ending here rest
        let (value, rest) ←
          readValue ending fuel depth' .bracketed (keyPath here key) [.comma, .closeSequence] rest
        let item := .mapping .file [(key, value)]
        readItems ending fuel depth start path (count + 1) (item :: done) rest
      | _ =>
        let (item, rest) ← readNode ending fuel depth .bracketed here [] (token :: rest)
        readItems ending fuel depth start path (count + 1) (item :: done) rest

end

/-! ## Documents -/

/-- Reads the mapping that a document consists of. -/
def readRoot (ending : Fault) (fuel : Nat) :
    List Token → Except Fault (Setting.Entries × List Token)
  | [] => .error ending
  | ⟨kind, place⟩ :: rest =>
    match kind, collection? .item kind with
    | .scalar text plain, _ => .error (.notAMapping (settingOfScalar text plain).shape place)
    | _, none => .error (noNode .item place)
    | _, some collection => do
      let depth ← within maxDepth place
      match collection with
      | .lines => readLines ending fuel depth place none [] rest
      | .bracketedMapping => readPairs ending fuel depth place none true [] rest
      | _ => .error (.notAMapping .sequence place)

/-- Reads a document, which is empty if nothing but its marks is there. -/
def readDocument (ending : Fault) (fuel : Nat) :
    List Token → Except Fault (Setting.Entries × List Token)
  | [] => .error ending
  | ⟨.textEnd, place⟩ :: rest => .ok ([], ⟨.textEnd, place⟩ :: rest)
  | ⟨.documentStart, _⟩ :: rest =>
    match rest with
    | [] => .error ending
    | token :: _ =>
      if [TokenKind.documentStart, .documentEnd, .textEnd].contains token.kind then
        .ok ([], rest)
      else readRoot ending fuel rest
  | tokens => readRoot ending fuel tokens

/-- Accepts what was read if nothing follows it. -/
def alone (ending : Fault) (entries : Setting.Entries) :
    List Token → Except Fault Setting.Entries
  | [] => .error ending
  | tokens =>
    match tokens.dropWhile fun token => token.kind == .documentEnd with
    | ⟨.textEnd, _⟩ :: _ => .ok entries
    | _ => .error .furtherDocument

/-- The entries of the mapping that tokens make up. -/
def Tokens.entries (tokens : Tokens) : Except Fault Setting.Entries := do
  let ending := tokens.fault.getD (.unsupported .start)
  let (entries, rest) ← readDocument ending (3 * tokens.list.length + 3) tokens.list
  alone ending entries rest

/-- Whether a character may be in a document. -/
def isPermitted (c : Char) : Bool :=
  ['\t', '\n', '\r', '\u0085'].contains c || (0x20 ≤ c.toNat && c.toNat ≤ 0x7E) ||
    (0xA0 ≤ c.toNat && c.toNat != 0xFFFE && c.toNat != 0xFFFF)

/-- How many octets precede the first character that may not be in a document, behind those
that were passed. -/
def forbiddenAt? (passed : Nat) : List Char → Option Nat
  | [] => none
  | c :: rest => if isPermitted c then forbiddenAt? (passed + c.utf8Size) rest else some passed

/-- Reads the entries of the mapping that a text makes up. An empty text has none. -/
def readText (text : List Char) : Except Fault Setting.Entries :=
  match forbiddenAt? 0 text with
  | some position => .error (.controlCharacter position)
  | none => (Tokens.ofText text).entries

/-- Reads a document. -/
def read (content : Bytes) : Except Fault Setting.Entries :=
  match Utf8.decode? content with
  | some text => readText text.toList
  | none => .error .notText

end Intake.Yaml
