import Intake.Double
import Intake.Text.Quoted

/-!
Settings: what a configuration document or a variable gives.

A setting is a scalar, a sequence, or a mapping of keys to settings, and knows where it was
given. The keys of a mapping are unique and in order. `Setting.merge` lays one setting over
another: mappings key by key, everything else as a whole. `find?_mergeEntries` says what a key
stands for in entries that were laid over others.
-/

namespace Intake

/-- Where a setting was given. -/
inductive Origin where
  | file
  | environment
deriving DecidableEq, Repr

inductive Scalar where
  | null
  | bool (b : Bool)
  | unsigned (n : Nat)
  /-- A number with a minus sign in front of it. -/
  | signed (i : Int)
  | double (d : Double)
  | text (s : String)
deriving DecidableEq, Repr

inductive Setting where
  | scalar (origin : Origin) (value : Scalar)
  | sequence (origin : Origin) (items : List Setting)
  | mapping (origin : Origin) (entries : List (String × Setting))
deriving Repr

namespace Setting

/-- The keys of a mapping and what they stand for. -/
abbrev Entries := List (String × Setting)

mutual

/-- Whether two settings are the same. -/
def decEq : (s t : Setting) → Decidable (s = t)
  | scalar origin value, scalar origin' value' =>
    decidable_of_iff (origin = origin' ∧ value = value') (by rw [scalar.injEq])
  | sequence origin items, sequence origin' items' =>
    haveI := decEqItems items items'
    decidable_of_iff (origin = origin' ∧ items = items') (by rw [sequence.injEq])
  | mapping origin entries, mapping origin' entries' =>
    haveI := decEqEntries entries entries'
    decidable_of_iff (origin = origin' ∧ entries = entries') (by rw [mapping.injEq])
  | scalar .., sequence .. | scalar .., mapping .. | sequence .., scalar ..
  | sequence .., mapping .. | mapping .., scalar .. | mapping .., sequence .. => .isFalse nofun

def decEqItems : (items items' : List Setting) → Decidable (items = items')
  | [], [] => .isTrue rfl
  | s :: items, t :: items' =>
    haveI := decEq s t
    haveI := decEqItems items items'
    decidable_of_iff (s = t ∧ items = items') (by rw [List.cons.injEq])
  | [], _ :: _ | _ :: _, [] => .isFalse nofun

def decEqEntries : (entries entries' : List (String × Setting)) → Decidable (entries = entries')
  | [], [] => .isTrue rfl
  | (key, s) :: entries, (key', t) :: entries' =>
    haveI := decEq s t
    haveI := decEqEntries entries entries'
    decidable_of_iff ((key = key' ∧ s = t) ∧ entries = entries')
      (by rw [List.cons.injEq, Prod.mk.injEq])
  | [], _ :: _ | _ :: _, [] => .isFalse nofun

end

instance : DecidableEq Setting := decEq

def origin : Setting → Origin
  | scalar origin _ | sequence origin _ | mapping origin _ => origin

/-! ## Mappings -/

/-- Lets a key stand for a setting, in place of another. -/
def put (key : String) (value : Setting) : Entries → Entries
  | [] => [(key, value)]
  | (k, v) :: rest =>
    if key = k then (key, value) :: rest
    else if key < k then (key, value) :: (k, v) :: rest
    else (k, v) :: put key value rest

/-- What a key stands for. -/
def find? (key : String) : Entries → Option Setting
  | [] => none
  | (k, v) :: rest => if key = k then some v else find? key rest

/-- The entries of a mapping; another setting has none. -/
def entries : Setting → Entries
  | mapping _ entries => entries
  | _ => []

/-- What is found by following keys through mappings. -/
def at? : List String → Setting → Option Setting
  | [], s => some s
  | key :: path, s => (find? key s.entries).bind (at? path)

/-- The setting `value` below nested mappings, one for each key of a path. -/
def nest (origin : Origin) (value : Setting) : List String → Setting
  | [] => value
  | key :: path => mapping origin [(key, nest origin value path)]

mutual

/-- Lays `upper` over `lower`. -/
def merge (lower : Setting) : Setting → Setting
  | mapping origin upper =>
    match lower with
    | mapping _ entries => mapping origin (mergeEntries entries upper)
    | _ => mapping origin upper
  | upper => upper

/-- Entries laid over entries, key by key. -/
def mergeEntries (lower : Entries) : Entries → Entries
  | [] => lower
  | (key, value) :: rest =>
    let laid :=
      match find? key lower with
      | some old => merge old value
      | none => value
    mergeEntries (put key laid lower) rest

end

theorem find?_put_self (key : String) (value : Setting) (entries : Entries) :
    find? key (put key value entries) = some value := by
  induction entries with
  | nil => simp [put, find?]
  | cons entry rest ih =>
    obtain ⟨k, v⟩ := entry
    by_cases same : key = k
    · simp [put, find?, same]
    · by_cases less : key < k
      · simp [put, find?, same, less]
      · simp [put, find?, same, less, ih]

theorem find?_put_of_ne {key other : String} (different : other ≠ key) (value : Setting)
    (entries : Entries) : find? other (put key value entries) = find? other entries := by
  induction entries with
  | nil => simp [put, find?, different]
  | cons entry rest ih =>
    obtain ⟨k, v⟩ := entry
    by_cases same : key = k
    · subst same
      simp [put, find?, different]
    · by_cases less : key < k
      · simp [put, find?, same, less, different]
      · simp [put, find?, same, less, ih]

theorem mergeEntries_cons (lower : Entries) (key : String) (value : Setting) (rest : Entries) :
    mergeEntries lower ((key, value) :: rest) =
      mergeEntries (put key (match find? key lower with
        | some old => merge old value
        | none => value) lower) rest := by
  rw [mergeEntries]

/-- What `value` comes to when it is laid over what may be there. -/
def mergeOver (lower : Option Setting) (value : Setting) : Setting :=
  match lower with
  | some old => merge old value
  | none => value

theorem find?_eq_none {key : String} {entries : Entries}
    (absent : key ∉ entries.map Prod.fst) : find? key entries = none := by
  induction entries with
  | nil => rfl
  | cons entry rest ih =>
    simp only [List.map_cons, List.mem_cons, not_or] at absent
    simp [find?, absent.1, ih absent.2]

/-- A key that is laid over comes to its setting laid over what was there, and another key
stands for what it stood for. -/
theorem find?_mergeEntries {upper : Entries} (unique : (upper.map Prod.fst).Nodup) (key : String)
    (lower : Entries) :
    find? key (mergeEntries lower upper) =
      match find? key upper with
      | some value => some (mergeOver (find? key lower) value)
      | none => find? key lower := by
  induction upper generalizing lower with
  | nil => rw [mergeEntries, find?]
  | cons entry rest ih =>
    obtain ⟨k, v⟩ := entry
    simp only [List.map_cons, List.nodup_cons] at unique
    rw [mergeEntries_cons, ih unique.2]
    by_cases same : key = k
    · subst same
      simp [find?, find?_eq_none unique.1, find?_put_self, mergeOver]
    · simp [find?, same, find?_put_of_ne same]

/-! ## What messages say -/

/-- What kind of thing a setting is. -/
inductive Shape where
  | scalar (value : Scalar)
  | sequence
  | mapping
deriving DecidableEq, Repr

def shape : Setting → Shape
  | scalar _ value => .scalar value
  | sequence .. => .sequence
  | mapping .. => .mapping

end Setting

/-- A number that takes more than 64 bits. -/
def wideNumber (digits type : String) : String :=
  "integer `" ++ digits ++ "` as " ++ type

/-- Whether a number without a sign fits 64 bits. -/
def fitsUnsigned (n : Nat) : Bool :=
  n < Word.limit

/-- Whether a number with a sign fits 64 bits. -/
def fitsSigned (i : Int) : Bool :=
  -(Word.signedLimit : Int) ≤ i && i < Word.signedLimit

/-- How a message names a scalar. -/
def Scalar.described : Scalar → String
  | null => "unit"
  | bool b => "bool " ++ toString b
  | unsigned n =>
    if fitsUnsigned n then "unsigned int `" ++ toString n ++ "`" else wideNumber (toString n) "u128"
  | signed i =>
    if fitsSigned i then "signed int `" ++ toString i ++ "`" else wideNumber (toString i) "i128"
  | double d => "float `" ++ d.display ++ "`"
  | text s => "string " ++ Text.quoted s

/-- How a message names what was found. -/
def Setting.Shape.described : Setting.Shape → String
  | scalar value => value.described
  | sequence => "sequence"
  | mapping => "map"

end Intake
