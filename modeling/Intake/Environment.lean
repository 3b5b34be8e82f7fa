import Intake.Setting
import Intake.Text.Blank
import Intake.Text.Escape
import Intake.Text.Numeral

/-!
Environment variables, and the settings that they give.

A variable whose name starts with `INGESTCTL_` gives a setting at the path that the rest of
its name spells. Its value is read by a small grammar; a value that is outside of it stands
for itself as a text.
-/

namespace Intake

/-- The variables of a process: their names and values. -/
abbrev Environment := List (String × String)

namespace Environment

/-- The value of a variable. -/
def get? (env : Environment) (name : String) : Option String :=
  env.lookup name

/-! ## Names -/

/-- What the names of variables that give settings start with, in any case. -/
def namespaceMark : String :=
  "ingestctl_"

/-- A text in lower case, as far as its ASCII letters go. -/
def lowerCase (cs : List Char) : List Char :=
  cs.map Char.toLower

/-- What follows `start` in a text that starts with it. -/
def strip? : (start : List Char) → List Char → Option (List Char)
  | [], cs => some cs
  | _ :: _, [] => none
  | a :: start, c :: cs => if a = c then strip? start cs else none

/-- The words of a name, which dots and double underscores part. -/
def words : List Char → List (List Char)
  | [] => [[]]
  | '_' :: '_' :: rest => [] :: words rest
  | c :: rest =>
    if c = '.' then [] :: words rest
    else
      match words rest with
      | [] => [[c]]
      | first :: more => (c :: first) :: more

/-- The path of the setting that a variable gives, if it gives one. Blanks around the name
and around what follows the mark do not count, and no word is empty. -/
def path? (name : String) : Option (List String) :=
  match strip? namespaceMark.toList (lowerCase (Text.trimChars name.toList)) with
  | none => none
  | some rest =>
    let path := words (Text.trimChars rest)
    if path.any List.isEmpty then none else some (path.map String.ofList)

/-! ## Values -/

/-- Whether a character may stand around the parts of a value. -/
def isGap (c : Char) : Bool :=
  [' ', '\t', '\n', '\x0c', '\r'].contains c

/-- Whether a character ends a word of a value. -/
def isBracket (c : Char) : Bool :=
  [',', '[', ']', '\x7b', '\x7d'].contains c

/-- What a word of a value stands for: a decimal with a point, a whole number of 64 bits, or
itself. -/
def scalarOfWord (word : String) : Scalar :=
  let cs := word.toList
  match if cs.contains '.' then Double.read cs else none with
  | some d => .double d
  | none =>
    match Text.readNumeral word, cs with
    | .ok n, _ => .unsigned n
    | .error _, '-' :: digits =>
      match Text.readBase 10 digits with
      | some n => if n ≤ Word.signedLimit then .signed (-n) else .text word
      | none => .text word
    | .error _, _ => .text word

/-- The escapes between double quotes. -/
def escapes : Text.Escapes where
  char? := fun
    | '"' => some '"'
    | '\\' => some '\\'
    | 'b' => some '\x08'
    | 'f' => some '\x0c'
    | 'n' => some '\n'
    | 'r' => some '\r'
    | 't' => some '\t'
    | _ => none
  digits? := fun
    | 'u' => some 4
    | 'U' => some 8
    | _ => none

/-- Whether a character may stand between double quotes: no control character but a tab. -/
def isPlain (c : Char) : Bool :=
  c == '\t' || (' ' ≤ c && c != '\x7f')

/-- The characters that lie within the first octets of a text. -/
def withinOctets (count : Nat) : List Char → List Char
  | [] => []
  | c :: rest => if c.utf8Size ≤ count then c :: withinOctets (count - c.utf8Size) rest else []

/-- Reads up to the closing double quote: the text, and what follows the quote. Of what stands
in front of the first escape as many octets count as it has characters; without an escape all
of it counts. -/
def readQuoted (cs : List Char) : Option (List Char × List Char) :=
  let leading := cs.takeWhile fun c => c != '"' && c != '\\'
  (escapes.readQuoted isPlain cs).map fun (text, after) =>
    if text.length = leading.length then (text, after)
    else (withinOctets leading.length leading ++ text.drop leading.length, after)

/-- What a scalar of a value stands for. -/
def settingOf (value : Scalar) : Setting :=
  .scalar .environment value

/-- Reads a scalar: a truth value, a text between double quotes, a character between single
quotes, or a word. -/
def readScalar (cs : List Char) : Option (Scalar × List Char) :=
  match strip? "true".toList cs, strip? "false".toList cs, cs with
  | some rest, _, _ => some (.bool true, rest)
  | _, some rest, _ => some (.bool false, rest)
  | _, _, '"' :: rest =>
    (readQuoted rest).map fun (text, after) => (.text (String.ofList text), after)
  | _, _, '\'' :: c :: '\'' :: rest => some (.text c.toString, rest)
  | _, _, '\'' :: _ => none
  | _, _, cs =>
    some (scalarOfWord (Text.trim (String.ofList (cs.takeWhile fun c => !isBracket c))),
      cs.dropWhile fun c => !isBracket c)

/-- Whether a character may be in a key that is not quoted. -/
def isKeyChar (c : Char) : Bool :=
  c.isAlphanum || c == '_' || c == '-'

/-- Reads the key of a mapping. -/
def readKey : List Char → Option (String × List Char)
  | '"' :: rest =>
    (readQuoted rest).map fun (text, after) => (String.ofList text, after)
  | cs =>
    if cs.takeWhile isKeyChar = [] then none
    else some (String.ofList (cs.takeWhile isKeyChar), cs.dropWhile isKeyChar)

mutual

/-- Reads a value with the gaps around it, within as many steps as `fuel` allows: its
setting, and what follows. -/
def readValue (fuel : Nat) (cs : List Char) : Option (Setting × List Char) :=
  match fuel, cs.dropWhile isGap with
  | 0, _ => none
  | fuel + 1, '\x7b' :: rest =>
    (readEntries fuel [] rest).map fun (entries, after) =>
      (.mapping .environment entries, after.dropWhile isGap)
  | fuel + 1, '[' :: rest =>
    (readItems fuel rest).map fun (items, after) =>
      (.sequence .environment items, after.dropWhile isGap)
  | _ + 1, cs =>
    (readScalar cs).map fun (value, after) => (settingOf value, after.dropWhile isGap)

/-- Reads the items of a sequence up to its closing bracket. -/
def readItems (fuel : Nat) (cs : List Char) : Option (List Setting × List Char) :=
  match fuel, cs with
  | 0, _ => none
  | _ + 1, ']' :: rest => some ([], rest)
  | fuel + 1, cs =>
    match readValue fuel cs with
    | some (item, ']' :: after) => some ([item], after)
    | some (item, ',' :: rest) =>
      (readItems fuel rest).map fun (items, after) => (item :: items, after)
    | _ => none

/-- Reads the entries of a mapping up to its closing bracket, behind those that are
`done`. -/
def readEntries (fuel : Nat) (done : Setting.Entries) (cs : List Char) :
    Option (Setting.Entries × List Char) :=
  match fuel, cs with
  | 0, _ => none
  | _ + 1, '\x7d' :: rest => some (done, rest)
  | fuel + 1, cs =>
    match readKey (cs.dropWhile isGap) with
    | none => none
    | some (key, rest) =>
      match rest.dropWhile isGap with
      | '=' :: rest =>
        match readValue fuel rest with
        | some (value, '\x7d' :: after) => some (Setting.put key value done, after)
        | some (value, ',' :: rest) => readEntries fuel (Setting.put key value done) rest
        | _ => none
      | _ => none

end

/-- The setting that a value gives. -/
def settingOfValue (value : String) : Setting :=
  match readValue (2 * value.length + 2) value.toList with
  | some (setting, []) => setting
  | _ => settingOf (.text value)

/-! ## All variables -/

/-- The entries that one variable gives. -/
def entriesOf (name value : String) : Setting.Entries :=
  match path? name with
  | some path => (Setting.nest .environment (settingOfValue value) path).entries
  | none => []

/-- The entries that all variables give, where later ones lie over earlier ones. -/
def entries (env : Environment) : Setting.Entries :=
  env.foldl (fun under (name, value) => Setting.mergeEntries under (entriesOf name value)) []

end Environment

end Intake
