import Intake.Proofs.Config.Paths
import Mathlib.Data.List.Nodup

/-!
# Reading a configuration

A configuration has seven leaves (`Leaf`), each at a path of its own and with values of its own
type. It is read from a mapping that holds nothing but leaves of their types below the declared
keys (`Declares`), leaf by leaf: one that is given comes from its setting, and the others keep their
defaults (`ofEntries_of_declares`). A mapping that holds anything at a path that is not declared is
refused (`ofEntries_of_not_isDeclared`).
-/

namespace Intake.Config

open Setting

/-! ## Values -/

/-- A setting is the number `n`, which is below a bound. -/
def IsNumber (bound : Nat) (s : Setting) (n : Nat) : Prop :=
  n < bound ∧ ∃ origin, s = .scalar origin (.unsigned n) ∨ s = .scalar origin (.signed n)

theorem map_eq_ok_iff {ε α β : Type} {x : Except ε α} {f : α → β} {b : β} :
    x.map f = .ok b ↔ ∃ a, x = .ok a ∧ f a = b := by
  cases x <;> simp [Except.map]

variable {s : Setting} {bound n : Nat} {expected : Expected}

theorem readNumber_eq_ok_iff :
    readNumber bound expected s = .ok n ↔ IsNumber bound s n := by
  constructor
  · intro read
    unfold readNumber at read
    split at read
    · next origin m =>
      split at read
      · next within =>
        obtain rfl := Except.ok.inj read
        exact ⟨within, origin, .inl rfl⟩
      · split at read <;> cases read
    · next origin i =>
      split at read
      · next within =>
        obtain rfl := Except.ok.inj read
        have same : ((i.toNat : Nat) : Int) = i := Int.toNat_of_nonneg within.1
        refine ⟨by omega, origin, .inr ?_⟩
        rw [same]
      · split at read <;> cases read
    · cases read
  · rintro ⟨within, origin, rfl | rfl⟩
    · rw [readNumber, if_pos within]
    · rw [readNumber, if_pos (by omega), Int.toNat_natCast]

theorem readText_eq_ok_iff {t : String} :
    readText expected s = .ok t ↔ ∃ origin, s = .scalar origin (.text t) := by
  constructor
  · intro read
    unfold readText at read
    split at read
    · next origin t =>
      obtain rfl := Except.ok.inj read
      exact ⟨origin, rfl⟩
    · cases read
  · rintro ⟨origin, rfl⟩
    rfl

theorem readOptionalSize_eq_ok_iff {size : Option Nat} :
    readOptionalSize s = .ok size ↔
      (size = none ∧ ∃ origin, s = .scalar origin .null) ∨
        ∃ n, size = some n ∧ IsNumber Word.limit s n := by
  constructor
  · intro read
    unfold readOptionalSize at read
    split at read
    · next origin => exact .inl ⟨(Except.ok.inj read).symm, origin, rfl⟩
    · obtain ⟨n, number, same⟩ := map_eq_ok_iff.mp read
      exact .inr ⟨n, same.symm, readNumber_eq_ok_iff.mp number⟩
  · rintro (⟨rfl, origin, rfl⟩ | ⟨n, rfl, number⟩)
    · rfl
    · have read : readSize s = .ok n := readNumber_eq_ok_iff.mpr number
      unfold readOptionalSize
      split
      · obtain ⟨-, _, same | same⟩ := number <;> cases same
      · rw [read]
        rfl

theorem isNumber_unsigned_iff {origin : Origin} {m : Nat} :
    IsNumber bound (.scalar origin (.unsigned m)) n ↔ n = m ∧ m < bound := by
  constructor
  · rintro ⟨within, _, same | same⟩
    · cases same
      exact ⟨rfl, within⟩
    · cases same
  · rintro ⟨rfl, within⟩
    exact ⟨within, origin, .inl rfl⟩

/-! ## Leaves -/

/-- The settings of a configuration that hold values. -/
inductive Leaf where
  | host
  | port
  | scriptDir
  | maxFileSize
  | memoryLimit
  | chunkSize
  | framingOverhead
deriving DecidableEq

namespace Leaf

/-- The mapping that a leaf is in. -/
def group : Leaf → List String
  | host | port | scriptDir => []
  | maxFileSize | memoryLimit | chunkSize | framingOverhead => ["limits", "files"]

/-- The key of a leaf. -/
def name : Leaf → String
  | host => "host"
  | port => "port"
  | scriptDir => "script_dir"
  | maxFileSize => "max_file_size"
  | memoryLimit => "memory_limit"
  | chunkSize => "chunk_size"
  | framingOverhead => "framing_overhead"

/-- The keys that lead to a leaf. -/
def path (leaf : Leaf) : List String :=
  leaf.group ++ [leaf.name]

/-- The values that a leaf may have. -/
abbrev Value : Leaf → Type
  | host => String
  | scriptDir => FilePath
  | chunkSize => Option Nat
  | port | maxFileSize | memoryLimit | framingOverhead => Nat

/-- The value of a leaf. -/
def get : (leaf : Leaf) → Config → leaf.Value
  | host, c => c.host
  | port, c => c.port
  | scriptDir, c => c.scriptDir
  | maxFileSize, c => c.files.maxFileSize
  | memoryLimit, c => c.files.memoryLimit
  | chunkSize, c => c.files.chunkSize
  | framingOverhead, c => c.files.framingOverhead

/-- A configuration with another value of a leaf. -/
def set : (leaf : Leaf) → leaf.Value → Config → Config
  | host, v, c => { c with host := v }
  | port, v, c => { c with port := v }
  | scriptDir, v, c => { c with scriptDir := v }
  | maxFileSize, v, c => { c with files := { c.files with maxFileSize := v } }
  | memoryLimit, v, c => { c with files := { c.files with memoryLimit := v } }
  | chunkSize, v, c => { c with files := { c.files with chunkSize := v } }
  | framingOverhead, v, c => { c with files := { c.files with framingOverhead := v } }

/-- A setting is of the type of a leaf, and stands for a value of it: a text for the host and the
directory, a number of 16 bits for the port and one of 64 bits for a size, and nothing for a size
that may be unset. -/
def Holds : (leaf : Leaf) → Setting → leaf.Value → Prop
  | host, s, v => ∃ origin, s = .scalar origin (.text v)
  | port, s, v => IsNumber (2 ^ 16) s v
  | scriptDir, s, v => ∃ origin t, s = .scalar origin (.text t) ∧ v = .ofString t
  | chunkSize, s, v =>
    (v = none ∧ ∃ origin, s = .scalar origin .null) ∨ ∃ n, v = some n ∧ IsNumber (2 ^ 64) s n
  | maxFileSize, s, v | memoryLimit, s, v | framingOverhead, s, v => IsNumber (2 ^ 64) s v

/-- Reads the value of a leaf. -/
def read : (leaf : Leaf) → Setting → Reading leaf.Value
  | host, s => readText .host s
  | port, s => readPort s
  | scriptDir, s => (readText .path s).map .ofString
  | maxFileSize, s | memoryLimit, s | framingOverhead, s => readSize s
  | chunkSize, s => readOptionalSize s

theorem read_eq_ok_iff (leaf : Leaf) {s : Setting} {v : leaf.Value} :
    leaf.read s = .ok v ↔ leaf.Holds s v := by
  cases leaf with
  | host => exact readText_eq_ok_iff
  | port | maxFileSize | memoryLimit | framingOverhead => exact readNumber_eq_ok_iff
  | chunkSize => exact readOptionalSize_eq_ok_iff
  | scriptDir =>
    rw [read, map_eq_ok_iff]
    simp only [readText_eq_ok_iff]
    constructor
    · rintro ⟨t, ⟨origin, rfl⟩, rfl⟩
      exact ⟨origin, t, rfl, rfl⟩
    · rintro ⟨origin, t, rfl, rfl⟩
      exact ⟨t, ⟨origin, rfl⟩, rfl⟩

/-- A setting is of the type of a leaf. -/
def Typed (leaf : Leaf) (s : Setting) : Prop :=
  ∃ v, leaf.Holds s v

/-- A configuration has for a leaf what the setting that is given for it stands for, or the default
if none is. -/
def Follows (leaf : Leaf) (given : Option Setting) (c : Config) : Prop :=
  match given with
  | some s => leaf.Holds s (leaf.get c)
  | none => leaf.get c = leaf.get {}

theorem get_set_self (leaf : Leaf) (v : leaf.Value) (c : Config) : leaf.get (leaf.set v c) = v := by
  cases leaf <;> rfl

theorem get_set_of_ne {leaf other : Leaf} (differs : leaf ≠ other) (v : other.Value) (c : Config) :
    leaf.get (other.set v c) = leaf.get c := by
  cases leaf <;> cases other <;> first | rfl | exact absurd rfl differs

theorem get_of_files {leaf : Leaf} (inFiles : leaf.group = ["limits", "files"]) {c c' : Config}
    (same : c.files = c'.files) : leaf.get c = leaf.get c' := by
  cases leaf with
  | host | port | scriptDir => cases inFiles
  | maxFileSize | memoryLimit | chunkSize | framingOverhead => simp only [get, same]

theorem get_of_root {leaf : Leaf} (root : leaf.group = []) (l : FileLimits) (c : Config) :
    leaf.get { c with files := l } = leaf.get c := by
  cases leaf with
  | host | port | scriptDir => rfl
  | maxFileSize | memoryLimit | chunkSize | framingOverhead => cases root

theorem files_set {leaf : Leaf} (root : leaf.group = []) (v : leaf.Value) (c : Config) :
    (leaf.set v c).files = c.files := by
  cases leaf with
  | host | port | scriptDir => rfl
  | maxFileSize | memoryLimit | chunkSize | framingOverhead => cases root

theorem group_cases (leaf : Leaf) : leaf.group = [] ∨ leaf.group = ["limits", "files"] := by
  cases leaf <;> decide

theorem name_ne_limits (leaf : Leaf) : leaf.name ≠ "limits" := by
  cases leaf <;> decide

theorem Follows.of_get_eq {leaf : Leaf} {given : Option Setting} {c c' : Config}
    (follows : leaf.Follows given c) (same : leaf.get c' = leaf.get c) : leaf.Follows given c' := by
  cases given with
  | none => exact same.trans follows
  | some s =>
    unfold Follows
    rw [same]
    exact follows

/-- All leaves. -/
def all : List Leaf :=
  [host, port, scriptDir, maxFileSize, memoryLimit, chunkSize, framingOverhead]

theorem mem_all (leaf : Leaf) : leaf ∈ all := by
  cases leaf <;> decide

theorem name_injective {leaf other : Leaf} (same : leaf.name = other.name) : leaf = other := by
  revert same
  cases leaf <;> cases other <;> decide

/-- A setting of the type of a leaf has no keys. -/
theorem Typed.exists_scalar {leaf : Leaf} {s : Setting} (typed : leaf.Typed s) :
    ∃ origin value, s = .scalar origin value := by
  obtain ⟨v, holds⟩ := typed
  cases leaf with
  | host =>
    obtain ⟨origin, rfl⟩ := holds
    exact ⟨_, _, rfl⟩
  | scriptDir =>
    obtain ⟨origin, t, rfl, -⟩ := holds
    exact ⟨_, _, rfl⟩
  | chunkSize =>
    rcases holds with ⟨-, origin, rfl⟩ | ⟨n, -, -, origin, rfl | rfl⟩ <;> exact ⟨_, _, rfl⟩
  | port | maxFileSize | memoryLimit | framingOverhead =>
    obtain ⟨-, origin, rfl | rfl⟩ := holds <;> exact ⟨_, _, rfl⟩

theorem Typed.not_isMapping {leaf : Leaf} {s : Setting} (typed : leaf.Typed s) :
    ¬ s.IsMapping := by
  obtain ⟨origin, value, rfl⟩ := typed.exists_scalar
  rintro ⟨_, _, ⟨⟩⟩

/-- A setting of the type of a leaf takes the place of what it is laid over. -/
theorem Typed.mergeOver_eq {leaf : Leaf} {s : Setting} (typed : leaf.Typed s)
    (old : Option Setting) : mergeOver old s = s := by
  obtain ⟨origin, value, rfl⟩ := typed.exists_scalar
  exact mergeOver_scalar old origin value

end Leaf

/-! ## Entries of a record -/

section

variable {σ α : Type} {fields : List (Field σ)} {start record : σ} {entries : Entries}
  {key : String}

/-- An entry is taken by the field that has its key. -/
theorem takeEntry_eq_ok_iff (distinct : (fields.map Field.name).Nodup) {next : σ} :
    takeEntry fields record (key, s) = .ok next ↔
      ∃ field ∈ fields, field.name = key ∧ field.take record s = .ok next := by
  have mapped {x : Reading σ} {below : Fault → Fault} :
      x.mapError below = .ok next ↔ x = .ok next := by
    cases x <;> simp [Except.mapError]
  unfold takeEntry
  cases found : fields.find? fun field => field.name == key with
  | none =>
    refine iff_of_false nofun ?_
    rintro ⟨field, member, named, -⟩
    exact List.find?_eq_none.mp found field member (beq_iff_eq.mpr named)
  | some field =>
    dsimp only
    rw [mapped]
    have named : field.name = key := by simpa using List.find?_some found
    refine ⟨fun taken => ⟨field, List.mem_of_find?_eq_some found, named, taken⟩, ?_⟩
    rintro ⟨other, member, same, taken⟩
    have equal := List.inj_on_of_nodup_map distinct member (List.mem_of_find?_eq_some found)
      (same.trans named.symm)
    rwa [equal] at taken

/-- A record is read from entries each of which is taken. -/
theorem exists_takeEntries (start : σ)
    (taken : ∀ entry ∈ entries, ∀ r, ∃ r', takeEntry fields r entry = .ok r') :
    ∃ record, takeEntries fields start entries = .ok record := by
  unfold takeEntries
  induction entries generalizing start with
  | nil => exact ⟨start, rfl⟩
  | cons entry rest ih =>
    obtain ⟨next, first⟩ := taken entry (List.mem_cons_self ..) start
    rw [List.foldlM_cons, first]
    exact ih next fun later member => taken later (List.mem_cons_of_mem _ member)

/-- No record is read from entries one of which is not taken. -/
theorem takeEntries_of_refused {entry : String × Setting} (member : entry ∈ entries)
    (refused : ∀ r r', takeEntry fields r entry ≠ .ok r') :
    takeEntries fields start entries ≠ .ok record := by
  unfold takeEntries
  induction entries generalizing start with
  | nil => cases member
  | cons first rest ih =>
    rw [List.foldlM_cons]
    cases taken : takeEntry fields start first with
    | error fault => exact nofun
    | ok next =>
      rcases List.mem_cons.mp member with rfl | later
      · exact absurd taken (refused start next)
      · exact ih later

/-- What just one key has an effect on comes from the entry of that key, or is as it was before. -/
theorem view_takeEntries (view : σ → α) (name : String) (unique : (entries.map Prod.fst).Nodup)
    (others : ∀ {r r' key s}, key ≠ name → takeEntry fields r (key, s) = .ok r' →
      view r' = view r)
    (taken : takeEntries fields start entries = .ok record) :
    (find? name entries = none → view record = view start) ∧
      ∀ s, find? name entries = some s →
        ∃ r r', takeEntry fields r (name, s) = .ok r' ∧ view record = view r' := by
  unfold takeEntries at taken
  induction entries generalizing start with
  | nil =>
    obtain rfl := Except.ok.inj taken
    refine ⟨fun _ => rfl, fun s given => ?_⟩
    cases given
  | cons entry rest ih =>
    obtain ⟨key, value⟩ := entry
    rw [List.map_cons, List.nodup_cons] at unique
    rw [List.foldlM_cons] at taken
    cases first : takeEntry fields start (key, value) with
    | error fault => rw [first] at taken; cases taken
    | ok next =>
      rw [first] at taken
      obtain ⟨kept, comes⟩ := ih unique.2 taken
      rw [find?]
      split
      · next same =>
        subst same
        constructor
        · intro absent
          cases absent
        · intro s given
          refine ⟨start, next, ?_, kept (find?_eq_none unique.1)⟩
          rw [← Option.some.inj given, first]
      · next other =>
        exact ⟨fun absent => (kept absent).trans (others (Ne.symm other) first), comes⟩

end

/-! ## The records of a configuration -/

/-- The leaves that are limits of files are taken one by one. -/
theorem takeEntry_fileLimits_iff {l l' : FileLimits} {key : String} :
    takeEntry fileLimitsFields l (key, s) = .ok l' ↔
      ∃ leaf : Leaf, leaf.group = ["limits", "files"] ∧ leaf.name = key ∧
        ∃ v, leaf.Holds s v ∧ (leaf.set v { files := l }).files = l' := by
  have fields_eq : fileLimitsFields =
      [Leaf.maxFileSize, .memoryLimit, .chunkSize, .framingOverhead].map fun leaf =>
        ⟨leaf.name, fun l s => (leaf.read s).map fun v => (leaf.set v { files := l }).files⟩ := rfl
  have inFiles (leaf : Leaf) : leaf ∈
      [Leaf.maxFileSize, .memoryLimit, .chunkSize, .framingOverhead] ↔
        leaf.group = ["limits", "files"] := by
    cases leaf <;> decide
  rw [takeEntry_eq_ok_iff (by decide), fields_eq]
  simp only [List.mem_map, exists_exists_and_eq_and, inFiles, map_eq_ok_iff, Leaf.read_eq_ok_iff]

/-- The leaves next to the limits are taken one by one, and the limits as a whole. -/
theorem takeEntry_fields_iff {c c' : Config} {key : String} :
    takeEntry fields c (key, s) = .ok c' ↔
      (∃ leaf : Leaf, leaf.group = [] ∧ leaf.name = key ∧
        ∃ v, leaf.Holds s v ∧ leaf.set v c = c') ∨
      "limits" = key ∧ ∃ l, readLimits s = .ok l ∧ { c with files := l } = c' := by
  have fields_eq : fields =
      ([Leaf.host, .port, .scriptDir].map fun leaf =>
        ⟨leaf.name, fun c s => (leaf.read s).map fun v => leaf.set v c⟩) ++
      [⟨"limits", fun c s => (readLimits s).map fun l => { c with files := l }⟩] := by
    have composed (c : Config) (s : Setting) :
        (Leaf.scriptDir.read s).map (fun v => Leaf.scriptDir.set v c) =
          (readText .path s).map fun t => { c with scriptDir := .ofString t } := by
      rw [Leaf.read]
      cases readText .path s <;> rfl
    simp only [List.map_cons, List.map_nil, composed]
    rfl
  have outside (leaf : Leaf) : leaf ∈ [Leaf.host, .port, .scriptDir] ↔ leaf.group = [] := by
    cases leaf <;> decide
  rw [takeEntry_eq_ok_iff (by decide), fields_eq]
  simp only [List.mem_append, List.mem_map, List.mem_singleton, or_and_right, exists_or,
    exists_exists_and_eq_and, exists_eq_left, outside, map_eq_ok_iff, Leaf.read_eq_ok_iff]

theorem takeEntry_limits_iff {l l' : FileLimits} {key : String} :
    takeEntry limitsFields l (key, s) = .ok l' ↔ "files" = key ∧ readFileLimits s = .ok l' := by
  rw [takeEntry_eq_ok_iff (by decide), limitsFields]
  simp only [List.mem_singleton, exists_eq_left]

/-! ## Whole configurations -/

/-- The paths of the mappings that a configuration consists of. -/
def groups : List (List String) :=
  [[], ["limits"], ["limits", "files"]]

/-- A setting holds nothing but leaves of their types and the mappings that they are in. -/
def Declares (s : Setting) : Prop :=
  ∀ path found, at? path s = some found →
    (path ∈ groups ∧ found.IsMapping) ∨ ∃ leaf : Leaf, path = leaf.path ∧ leaf.Typed found

variable {entries : Entries} {origin : Origin}

/-- Limits of files are read from entries that are leaves of their types. -/
theorem exists_fileLimits (ordered : OrderedEntries entries)
    (declared : ∀ key found, find? key entries = some found →
      ∃ leaf : Leaf, leaf.group = ["limits", "files"] ∧ leaf.name = key ∧ leaf.Typed found) :
    ∃ l, readFileLimits (.mapping origin entries) = .ok l ∧
      ∀ leaf : Leaf, leaf.group = ["limits", "files"] →
        leaf.Follows (find? leaf.name entries) { files := l } := by
  obtain ⟨l, taken⟩ : ∃ l, takeEntries fileLimitsFields {} entries = .ok l := by
    apply exists_takeEntries
    intro entry member r
    obtain ⟨leaf, inFiles, named, v, holds⟩ :=
      declared entry.1 entry.2 (ordered.mem_iff_find?.mp member)
    exact ⟨_, takeEntry_fileLimits_iff.mpr ⟨leaf, inFiles, named, v, holds, rfl⟩⟩
  refine ⟨l, taken, fun leaf inFiles => ?_⟩
  have others {r r' : FileLimits} {key : String} {s : Setting} (other : key ≠ leaf.name)
      (taken : takeEntry fileLimitsFields r (key, s) = .ok r') :
      leaf.get { files := r' } = leaf.get { files := r } := by
    obtain ⟨owner, -, rfl, v, -, rfl⟩ := takeEntry_fileLimits_iff.mp taken
    have differs : leaf ≠ owner := fun same => other (by rw [same])
    calc leaf.get { files := (owner.set v { files := r }).files }
        = leaf.get (owner.set v { files := r }) := Leaf.get_of_files inFiles rfl
      _ = leaf.get { files := r } := Leaf.get_set_of_ne differs v _
  obtain ⟨absent, given⟩ := view_takeEntries (fun l => leaf.get { files := l }) leaf.name
    ordered.unique others taken
  unfold Leaf.Follows
  split
  · next s there =>
    obtain ⟨r, r', first, same⟩ := given s there
    obtain ⟨owner, -, named, v, holds, rfl⟩ := takeEntry_fileLimits_iff.mp first
    obtain rfl := Leaf.name_injective named
    have value : owner.get { files := (owner.set v { files := r }).files } = v :=
      calc owner.get { files := (owner.set v { files := r }).files }
          = owner.get (owner.set v { files := r }) := Leaf.get_of_files inFiles rfl
        _ = v := Leaf.get_set_self owner v _
    rw [same, value]
    exact holds
  · next none_ => exact absent none_

/-- The limits are read from a mapping that holds nothing but limits of files, if anything. -/
theorem exists_limits (ordered : OrderedEntries entries)
    (declared : ∀ key found, find? key entries = some found → key = "files")
    (files : ∀ found, find? "files" entries = some found →
      ∃ l, readFileLimits found = .ok l) :
    ∃ l, readLimits (.mapping origin entries) = .ok l ∧
      (find? "files" entries = none → l = {}) ∧
      ∀ found, find? "files" entries = some found → readFileLimits found = .ok l := by
  obtain ⟨l, taken⟩ : ∃ l, takeEntries limitsFields {} entries = .ok l := by
    apply exists_takeEntries
    intro entry member r
    have given := ordered.mem_iff_find?.mp member
    have named := declared entry.1 entry.2 given
    rw [named] at given
    obtain ⟨l, read⟩ := files entry.2 given
    exact ⟨l, takeEntry_limits_iff.mpr ⟨named.symm, read⟩⟩
  have others {r r' : FileLimits} {key : String} {s : Setting} (other : key ≠ "files")
      (taken : takeEntry limitsFields r (key, s) = .ok r') : r' = r :=
    absurd (takeEntry_limits_iff.mp taken).1.symm other
  obtain ⟨absent, given⟩ := view_takeEntries id "files" ordered.unique others taken
  refine ⟨l, taken, absent, fun found there => ?_⟩
  obtain ⟨r, r', first, same⟩ := given found there
  rw [show l = r' from same]
  exact (takeEntry_limits_iff.mp first).2

/-- What leaves and groups there are below a group, key by key. -/
theorem Declares.key_cases {s : Setting} (declares : Declares s) (group : List String)
    (key : String) {found : Setting} (holds : at? (group ++ [key]) s = some found) :
    (group ++ [key] ∈ groups ∧ found.IsMapping) ∨
      ∃ leaf : Leaf, leaf.group = group ∧ leaf.name = key ∧ leaf.Typed found := by
  refine (declares _ _ holds).imp_right ?_
  rintro ⟨leaf, same, typed⟩
  obtain ⟨sameGroup, sameName⟩ := List.append_inj' same rfl
  exact ⟨leaf, sameGroup.symm, (List.singleton_inj.mp sameName).symm, typed⟩

/-- The limits of files of a setting that holds only leaves of their types are read leaf by leaf. -/
theorem Declares.exists_fileLimits {s found : Setting} (declares : Declares s)
    (ordered : found.Ordered) (given : at? ["limits", "files"] s = some found) :
    ∃ l, readFileLimits found = .ok l ∧ ∀ leaf : Leaf, leaf.group = ["limits", "files"] →
      leaf.Follows (at? [leaf.name] found) { files := l } := by
  obtain ⟨-, origin, entries, rfl⟩ | ⟨leaf, group, name, -⟩ :=
    declares.key_cases ["limits"] "files" given
  · obtain ⟨l, read, follows⟩ := Config.exists_fileLimits ordered.entries fun key inner inside => by
      have behind : at? (["limits", "files"] ++ [key]) s = some inner :=
        (at?_concat given key).trans inside
      rcases declares.key_cases _ _ behind with ⟨known, -⟩ | leaf
      · simp [groups] at known
      · exact leaf
    refine ⟨l, read, fun leaf inFiles => ?_⟩
    rw [at?_key]
    exact follows leaf inFiles
  · cases leaf <;> cases group

/-- So are all limits. -/
theorem Declares.exists_limits {s found : Setting} (declares : Declares s)
    (ordered : found.Ordered) (given : at? ["limits"] s = some found) :
    ∃ l, readLimits found = .ok l ∧ ∀ leaf : Leaf, leaf.group = ["limits", "files"] →
      leaf.Follows (at? ["files", leaf.name] found) { files := l } := by
  obtain ⟨-, origin, entries, rfl⟩ | ⟨leaf, group, name, -⟩ := declares.key_cases [] "limits" given
  · have behind {key : String} {inner : Setting} (inside : find? key entries = some inner) :
        at? (["limits"] ++ [key]) s = some inner :=
      (at?_concat given key).trans inside
    have files (inner : Setting) (inside : find? "files" entries = some inner) :
        ∃ l, readFileLimits inner = .ok l ∧ ∀ leaf : Leaf, leaf.group = ["limits", "files"] →
          leaf.Follows (at? [leaf.name] inner) { files := l } :=
      declares.exists_fileLimits (ordered.entries.inside _ (mem_of_find? inside)) (behind inside)
    obtain ⟨l, read, absent, given⟩ := Config.exists_limits ordered.entries
      (fun key inner inside => by
        rcases declares.key_cases _ _ (behind inside) with ⟨known, -⟩ | ⟨leaf, group, -, -⟩
        · simpa [groups] using known
        · cases leaf <;> cases group)
      (fun inner inside => (files inner inside).imp fun l both => both.1)
    refine ⟨l, read, fun leaf inFiles => ?_⟩
    rw [at?_mapping]
    cases there : find? "files" entries with
    | none =>
      rw [absent there]
      rfl
    | some inner =>
      obtain ⟨l', read', follows⟩ := files inner there
      rw [Except.ok.inj ((given inner there).symm.trans read')]
      exact follows leaf inFiles
  · exact absurd name leaf.name_ne_limits

/-- A configuration is read from entries that hold only leaves of their types, leaf by leaf. -/
theorem ofEntries_of_declares (ordered : OrderedEntries entries)
    (declares : Declares (.mapping origin entries)) :
    ∃ c, ofEntries entries = .ok c ∧
      ∀ leaf : Leaf, leaf.Follows (at? leaf.path (.mapping origin entries)) c := by
  have inside {key : String} {found : Setting} (there : find? key entries = some found) :
      at? ([] ++ [key]) (.mapping origin entries) = some found :=
    (at?_concat rfl key).trans there
  have limits (found : Setting) (there : find? "limits" entries = some found) :
      ∃ l, readLimits found = .ok l ∧ ∀ leaf : Leaf, leaf.group = ["limits", "files"] →
        leaf.Follows (at? ["files", leaf.name] found) { files := l } :=
    declares.exists_limits (ordered.inside _ (mem_of_find? there)) (inside there)
  obtain ⟨c, taken⟩ : ∃ c, ofEntries entries = .ok c := by
    apply exists_takeEntries
    rintro ⟨key, found⟩ member r
    have there := ordered.mem_iff_find?.mp member
    rcases declares.key_cases _ _ (inside there) with ⟨known, -⟩ | ⟨leaf, group, name, v, holds⟩
    · obtain rfl : key = "limits" := by simpa [groups] using known
      obtain ⟨l, read, -⟩ := limits found there
      exact ⟨_, takeEntry_fields_iff.mpr (.inr ⟨rfl, l, read, rfl⟩)⟩
    · exact ⟨_, takeEntry_fields_iff.mpr (.inl ⟨leaf, group, name, v, holds, rfl⟩)⟩
  refine ⟨c, taken, fun leaf => ?_⟩
  rcases leaf.group_cases with root | inFiles
  · have others {r r' : Config} {key : String} {s : Setting} (other : key ≠ leaf.name)
        (taken : takeEntry fields r (key, s) = .ok r') : leaf.get r' = leaf.get r := by
      rcases takeEntry_fields_iff.mp taken with ⟨owner, -, rfl, v, -, rfl⟩ | ⟨-, l, -, rfl⟩
      · exact Leaf.get_set_of_ne (fun same => other (by rw [same])) v r
      · exact Leaf.get_of_root root l r
    obtain ⟨absent, given⟩ := view_takeEntries leaf.get leaf.name ordered.unique others taken
    rw [Leaf.path, root, List.nil_append, at?_key]
    cases there : find? leaf.name entries with
    | none => exact absent there
    | some s =>
      obtain ⟨r, r', first, same⟩ := given s there
      rcases takeEntry_fields_iff.mp first with ⟨owner, -, named, v, holds, rfl⟩ | ⟨named, -⟩
      · obtain rfl := Leaf.name_injective named
        rw [Leaf.get_set_self] at same
        unfold Leaf.Follows
        rw [same]
        exact holds
      · exact absurd named.symm leaf.name_ne_limits
  · have others {r r' : Config} {key : String} {s : Setting} (other : key ≠ "limits")
        (taken : takeEntry fields r (key, s) = .ok r') : r'.files = r.files := by
      rcases takeEntry_fields_iff.mp taken with ⟨owner, root, -, v, -, rfl⟩ | ⟨same, -⟩
      · exact Leaf.files_set root v r
      · exact absurd same.symm other
    obtain ⟨absent, given⟩ := view_takeEntries Config.files "limits" ordered.unique others taken
    rw [Leaf.path, inFiles]
    change leaf.Follows (at? ["limits", "files", leaf.name] _) c
    rw [at?_mapping]
    cases there : find? "limits" entries with
    | none => exact Leaf.get_of_files inFiles (absent there)
    | some s =>
      obtain ⟨r, r', first, same⟩ := given s there
      obtain ⟨l, read, follows⟩ := limits s there
      rcases takeEntry_fields_iff.mp first with ⟨owner, -, named, -⟩ | ⟨-, l', read', rfl⟩
      · exact absurd named owner.name_ne_limits
      · rw [Except.ok.inj (read'.symm.trans read)] at same
        exact (follows leaf inFiles).of_get_eq (Leaf.get_of_files inFiles same)

/-! ## What is not declared -/

/-- A key below a group that is neither a group nor a leaf of its type. -/
structure Undeclared (group : List String) (key : String) (found : Setting) : Prop where
  known : group ∈ groups
  noGroup : group ++ [key] ∉ groups
  untyped : ∀ leaf : Leaf, leaf.group = group → leaf.name = key → ¬ leaf.Typed found

theorem readLimits_of_undeclared {key : String} {found : Setting} {l : FileLimits}
    (undeclared : Undeclared ["limits"] key found) (there : find? key entries = some found) :
    readLimits (.mapping origin entries) ≠ .ok l := by
  apply takeEntries_of_refused (mem_of_find? there)
  intro r r' taken
  obtain ⟨rfl, -⟩ := takeEntry_limits_iff.mp taken
  exact undeclared.noGroup (by simp [groups])

theorem readFileLimits_of_undeclared {key : String} {found : Setting} {l : FileLimits}
    (undeclared : Undeclared ["limits", "files"] key found)
    (there : find? key entries = some found) :
    readFileLimits (.mapping origin entries) ≠ .ok l := by
  apply takeEntries_of_refused (mem_of_find? there)
  intro r r' taken
  obtain ⟨leaf, inFiles, named, v, holds, -⟩ := takeEntry_fileLimits_iff.mp taken
  exact undeclared.untyped leaf inFiles named ⟨v, holds⟩

/-- No configuration is read from limits that are refused. -/
theorem ofEntries_of_limits {found : Setting} {c : Config}
    (refused : ∀ l, readLimits found ≠ .ok l) (there : find? "limits" entries = some found) :
    ofEntries entries ≠ .ok c := by
  apply takeEntries_of_refused (mem_of_find? there)
  intro r r' taken
  rcases takeEntry_fields_iff.mp taken with ⟨leaf, -, named, -⟩ | ⟨-, l, read, -⟩
  · exact leaf.name_ne_limits named
  · exact refused l read

/-- No configuration is read from entries that hold something undeclared. -/
theorem ofEntries_of_undeclared {group : List String} {key : String} {found : Setting} {c : Config}
    (undeclared : Undeclared group key found)
    (holds : at? (group ++ [key]) (.mapping origin entries) = some found) :
    ofEntries entries ≠ .ok c := by
  have known := undeclared.known
  simp only [groups, List.mem_cons, List.not_mem_nil, or_false] at known
  rcases known with rfl | rfl | rfl
  · rw [List.nil_append, at?_key] at holds
    apply takeEntries_of_refused (mem_of_find? holds)
    intro r r' taken
    rcases takeEntry_fields_iff.mp taken with ⟨leaf, root, named, v, value, -⟩ | ⟨rfl, -⟩
    · exact undeclared.untyped leaf root named ⟨v, value⟩
    · exact undeclared.noGroup (by simp [groups])
  · obtain ⟨limits, there, other, inside, rfl⟩ := exists_mapping_of_at?_append holds
    rw [at?_concat there] at holds
    rw [at?_key] at there
    exact ofEntries_of_limits (fun l => readLimits_of_undeclared undeclared holds) there
  · obtain ⟨files, there, other, inside, rfl⟩ := exists_mapping_of_at?_append holds
    rw [at?_concat there] at holds
    change at? (["limits"] ++ ["files"]) _ = _ at there
    obtain ⟨limits, above, outer, between, rfl⟩ := exists_mapping_of_at?_append there
    rw [at?_concat above] at there
    rw [at?_key] at above
    apply ofEntries_of_limits _ above
    intro l
    apply takeEntries_of_refused (mem_of_find? there)
    intro r r' taken
    exact readFileLimits_of_undeclared undeclared holds (takeEntry_limits_iff.mp taken).2

/-- A path leads to a leaf or to one of the mappings that leaves are in. -/
def IsDeclared (path : List String) : Prop :=
  path ∈ groups ∨ ∃ leaf : Leaf, path = leaf.path

instance : DecidablePred IsDeclared := fun path =>
  decidable_of_iff (path ∈ groups ∨ ∃ leaf ∈ Leaf.all, path = leaf.path)
    (or_congr_right (exists_congr fun leaf => and_iff_right leaf.mem_all))

/-- A path leaves the groups at one of its keys, unless it is a group. -/
theorem exists_group_key {path : List String} (noGroup : path ∉ groups) :
    ∃ group key rest, path = group ++ key :: rest ∧ group ∈ groups ∧ group ++ [key] ∉ groups := by
  induction path using List.reverseRecOn with
  | nil => exact absurd (by decide) noGroup
  | append_singleton front key ih =>
    by_cases known : front ∈ groups
    · exact ⟨front, key, [], rfl, known, noGroup⟩
    · obtain ⟨group, next, rest, rfl, known, outside⟩ := ih known
      exact ⟨group, next, rest ++ [key], by simp, known, outside⟩

/-- No configuration is read from entries that hold something at a path that is not declared: its
first key outside of the groups is unknown, or stands for a mapping in the place of a leaf. -/
theorem ofEntries_of_not_isDeclared {path : List String} {found : Setting} {c : Config}
    (undeclared : ¬ IsDeclared path)
    (holds : at? path (.mapping origin entries) = some found) : ofEntries entries ≠ .ok c := by
  obtain ⟨noGroup, noLeaf⟩ := not_or.mp undeclared
  obtain ⟨group, key, rest, rfl, known, outside⟩ := exists_group_key noGroup
  have split : group ++ key :: rest = group ++ [key] ++ rest := by simp
  rw [split, at?_append] at holds
  obtain ⟨inner, there, behind⟩ := Option.bind_eq_some_iff.mp holds
  refine ofEntries_of_undeclared ⟨known, outside, ?_⟩ there
  rintro leaf rfl rfl typed
  cases rest with
  | nil => exact noLeaf ⟨leaf, rfl⟩
  | cons next rest =>
    exact typed.not_isMapping (isMapping_of_at? behind)

end Intake.Config
