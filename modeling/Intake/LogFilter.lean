import Intake.Log
import Intake.Text.Alphanumeric
import Intake.Text.Blank
import Intake.Text.Numeral

/-!
Log filters: which events are shown.

A filter is a list of directives, parted by commas. A directive names a severity for all
targets, or a target and its severity, or, in brackets behind the target, the field that an
event must have; without a severity it shows everything. Of the directives that speak of an
event the most specific one decides. A filter that makes no sense is taken for one that shows
what is informative, and one without directives shows errors.
-/

namespace Intake

/-- How many of the levels are shown, from the severest on. -/
abbrev Verbosity := Nat

namespace Verbosity

/-- The verbosity that shows everything. -/
def all : Verbosity := 5

/-- The verbosity that shows what is informative. -/
def info : Verbosity := 3

/-- The verbosity that shows errors. -/
def error : Verbosity := 1

/-- The verbosities by name. -/
def names : List (String × Verbosity) :=
  [("off", 0), ("error", error), ("warn", 2), ("info", info), ("debug", 4), ("trace", all)]

/-- The verbosity that a text names: by a number, or by its name in any case. -/
def ofName? (cs : List Char) : Option Verbosity :=
  match (Text.readNumeral (String.ofList cs)).toOption.filter (· ≤ all) with
  | some verbosity => some verbosity
  | none => names.lookup (String.ofList (cs.map Char.toLower))

/-- Whether a verbosity shows a level. -/
def shows (v : Verbosity) (level : Level) : Bool :=
  level.rank < v

end Verbosity

/-- What a directive asks of an event, apart from its target. -/
inductive LogScope where
  | anywhere
  /-- The event has a field. -/
  | withField (name : List Char)
  /-- The event happens within a task of some name, or a field of it has some value. No event
  is logged within a task here. -/
  | withinTask
deriving DecidableEq, Repr

/-- Whether an event is what a scope asks for. Its message counts as a field. -/
def LogScope.holds (scope : LogScope) (event : Event) : Bool :=
  match scope with
  | anywhere => true
  | withField name =>
    name = "message".toList || event.fields.any fun (key, _) => key.toList = name
  | withinTask => false

/-- A rule of a filter: what is shown of the targets that start with a text. -/
structure LogDirective where
  target : List Char
  scope : LogScope
  verbosity : Verbosity
deriving DecidableEq, Repr

namespace LogDirective

/-! ## Reading -/

/-- Whether a directive may start with a character. -/
def mayStart (c : Char) : Bool :=
  Text.isAlphanumeric c || ['-', ':', '_', '['].contains c

/-- The scope that a field in braces asks for. -/
def scopeOfField? (field : List Char) : Option LogScope :=
  if field = [] then none
  else if field.contains '=' then some .withinTask
  else some (.withField field)

/-- Reads what follows an opening bracket: the scope, and what follows the closing bracket. -/
def readScope? (cs : List Char) : Option (LogScope × List Char) :=
  let task := cs.takeWhile fun c => c != ']' && c != '\x7b'
  match cs.dropWhile fun c => c != ']' && c != '\x7b' with
  | ']' :: rest => some (.withinTask, rest)
  | _ :: rest =>
    match rest.dropWhile (· != '\x7d') with
    | '\x7d' :: ']' :: after =>
      (scopeOfField? (rest.takeWhile (· != '\x7d'))).map fun scope =>
        (if task = [] then scope else .withinTask, after)
    | _ => none
  | [] => none

/-- The verbosity that stands behind an equals sign, where nothing asks for everything. -/
def readLevel? (cs : List Char) : Option Verbosity :=
  if cs = [] then some .all else Verbosity.ofName? cs

/-- The parts of a directive. -/
structure Parts where
  target : List Char
  scope : Option LogScope
  /-- What follows an equals sign. -/
  level : Option (List Char)

/-- The parts of a directive without blanks around it. -/
def parts? (cs : List Char) : Option Parts :=
  let target := cs.takeWhile fun c => c != '=' && c != '['
  match cs.dropWhile fun c => c != '=' && c != '[' with
  | [] => some ⟨target, none, none⟩
  | '=' :: level => some ⟨target, none, some level⟩
  | _ :: rest =>
    match readScope? rest with
    | some (scope, []) => some ⟨target, some scope, none⟩
    | some (scope, '=' :: level) => some ⟨target, some scope, some level⟩
    | _ => none

/-- A directive that is one word: a severity, or else a target. -/
def ofWord (word : List Char) : LogDirective :=
  match Verbosity.ofName? word with
  | some verbosity => ⟨[], .anywhere, verbosity⟩
  | none => ⟨word, .anywhere, .all⟩

/-- The directive that has some parts. Blanks behind a directive belong to the word or the
severity at its end. -/
def ofParts? (parts : Parts) (blanks : List Char) : Option LogDirective :=
  match parts.scope, parts.level with
  | none, none => some (ofWord (parts.target ++ blanks))
  | some scope, none => some ⟨parts.target, scope, .all⟩
  | scope, some level =>
    (readLevel? (level ++ blanks)).map fun verbosity =>
      ⟨parts.target, scope.getD .anywhere, verbosity⟩

/-- Reads a directive. One with blanks in front of it may name no severity behind an equals
sign, and its target is all of it, so that it covers no event. -/
def read? (cs : List Char) : Option LogDirective :=
  let core := Text.trimChars cs
  let blanks := cs.takeWhile Text.isBlank
  if core.head?.any mayStart then
    (parts? core).bind fun parts =>
      if blanks = [] then ofParts? parts (cs.drop core.length)
      else if parts.level.isSome then none
      else some ⟨cs, .anywhere, .all⟩
  else none

/-! ## Meaning -/

/-- Whether a directive speaks of an event. -/
def covers (d : LogDirective) (event : Event) : Bool :=
  d.target.isPrefixOf event.target.toList && d.scope.holds event

/-- The field that a directive asks for; none is the empty name. -/
def field (d : LogDirective) : List Char :=
  match d.scope with
  | .withField name => name
  | _ => []

/-- Whether a directive is at least as specific as another one that speaks of the same event:
it has the longer target, or the same and a field whose name comes later. -/
def atLeastAsSpecific (d e : LogDirective) : Bool :=
  e.target.length < d.target.length ||
    (e.target.length == d.target.length && !(decide (d.field < e.field)))

end LogDirective

/-- Which events are shown. -/
structure LogFilter where
  directives : List LogDirective
deriving DecidableEq, Repr

namespace LogFilter

/-- Shows what is informative. -/
def default : LogFilter where
  directives := [⟨[], .anywhere, .info⟩]

/-- Shows errors. -/
def errors : LogFilter where
  directives := [⟨[], .anywhere, .error⟩]

/-- The texts between commas that are not empty. -/
def parts (cs : List Char) : List (List Char) :=
  match cs with
  | [] => []
  | c :: rest =>
    if c = ',' then parts rest
    else
      (c :: rest.takeWhile (· != ',')) :: parts (rest.dropWhile (· != ','))
termination_by cs.length
decreasing_by
  · simp
  · have := (List.dropWhile_suffix (l := rest) (· != ',')).length_le
    simp only [List.length_cons]
    omega

/-- Reads a filter. -/
def read? (s : String) : Option LogFilter :=
  ((parts s.toList).mapM LogDirective.read?).map fun directives =>
    if directives = [] then errors else ⟨directives⟩

/-- The filter that a variable holds, if it is set. -/
def ofVariable (value : Option String) : LogFilter :=
  (value.bind read?).getD default

/-- Of two directives the more specific one; of two that are alike, the later. -/
def moreSpecific (earlier : Option LogDirective) (later : LogDirective) : Option LogDirective :=
  match earlier with
  | none => some later
  | some d => if later.atLeastAsSpecific d then some later else some d

/-- How much is shown of what is like an event. -/
def verbosity (f : LogFilter) (event : Event) : Verbosity :=
  match (f.directives.filter fun d => d.covers event).foldl moreSpecific none with
  | some d => d.verbosity
  | none => 0

/-- Whether an event is shown. -/
def shows (f : LogFilter) (event : Event) : Bool :=
  (f.verbosity event).shows event.level

end LogFilter

/-! ## Lines -/

/-- A field of an event, as a line shows it. -/
def FieldValue.shown : FieldValue → String
  | .text s => s
  | .count n => toString n

/-- An event as a line. -/
def Event.line (event : Event) : String :=
  event.level.name ++ " " ++ event.target ++ ": " ++ event.message ++
    String.join (event.fields.map fun (name, value) => " " ++ name ++ "=" ++ value.shown) ++ "\n"

end Intake
