import Intake.Program
import Intake.Proofs.Config.Records

/-!
# Naming the document by a variable

The document of a configuration is named by an argument or by a variable. The name of that
variable starts like those that give settings, and no setting is called that way: wherever the
variable is set, nothing is loaded (`load_of_configVariable`), while the same document may well
be loaded when an argument names it (`load_of_configVariable_refused`).
-/

namespace Intake

/-! ## Keys of merged entries -/

namespace Setting

theorem mem_keys_put {key other : String} {value : Setting} {entries : Entries} :
    other ∈ (put key value entries).map Prod.fst ↔
      other = key ∨ other ∈ entries.map Prod.fst := by
  induction entries with
  | nil => simp [put]
  | cons entry rest ih =>
    rcases entry with ⟨k, v⟩
    rw [put]
    split
    · next same =>
      subst same
      simp only [List.map_cons, List.mem_cons, or_self_left]
    · split
      · simp only [List.map_cons, List.mem_cons]
      · simp only [List.map_cons, List.mem_cons, ih, or_left_comm]

/-- Entries that are laid over others add their keys to them. -/
theorem mem_keys_mergeEntries {key : String} {lower upper : Entries} :
    key ∈ (mergeEntries lower upper).map Prod.fst ↔
      key ∈ lower.map Prod.fst ∨ key ∈ upper.map Prod.fst := by
  induction upper generalizing lower with
  | nil => simp [mergeEntries]
  | cons entry rest ih =>
    rcases entry with ⟨k, v⟩
    rw [mergeEntries_cons, ih, mem_keys_put]
    rw [List.map_cons, List.mem_cons, or_assoc, or_left_comm]

end Setting

namespace Environment

/-- The variables but those of a name. -/
def unset (env : Environment) (name : String) : Environment :=
  env.filter fun variable_ => variable_.1 != name

/-- A variable that gives a setting gives an entry for the first key of its path. -/
theorem mem_keys_entriesOf {name value key : String} {path : List String}
    (gives : path? name = some (key :: path)) : key ∈ (entriesOf name value).map Prod.fst := by
  rw [entriesOf, gives]
  exact List.mem_singleton.mpr rfl

/-- So do the entries of all variables have that key. -/
theorem mem_keys_entries {env : Environment} {name value key : String} {path : List String}
    (member : (name, value) ∈ env) (gives : path? name = some (key :: path)) :
    key ∈ env.entries.map Prod.fst := by
  induction env using List.reverseRecOn with
  | nil => cases member
  | append_singleton before last ih =>
    rw [entries_concat, Setting.mem_keys_mergeEntries]
    rcases List.mem_append.mp member with earlier | same
    · exact .inl (ih earlier)
    · rw [← List.mem_singleton.mp same]
      exact .inr (mem_keys_entriesOf gives)

end Environment

/-! ## Keys that no field has -/

namespace Config

/-- A record cannot be read from entries with a key that none of its fields has. -/
theorem takeEntries_of_unknown {σ : Type} {fields : List (Field σ)} (start : σ) {key : String}
    {entries : Setting.Entries} (unknown : key ∉ fields.map Field.name)
    (given : key ∈ entries.map Prod.fst) :
    ∃ fault, takeEntries fields start entries = .error fault := by
  obtain ⟨entry, member, rfl⟩ := List.mem_map.mp given
  have refused (r r' : σ) : takeEntry fields r entry ≠ .ok r' := by
    intro taken
    unfold takeEntry at taken
    split at taken
    · next field found =>
      have same := List.find?_some found
      rw [← beq_iff_eq.mp same] at unknown
      exact unknown (List.mem_map_of_mem (List.mem_of_find?_eq_some found))
    · cases taken
  cases taken : takeEntries fields start entries with
  | error fault => exact ⟨fault, rfl⟩
  | ok record => exact absurd taken (takeEntries_of_refused member refused)

/-- No configuration is loaded under a variable that gives a setting of an unknown name. -/
theorem load_of_unknown {document : Option Bytes} {env : Environment} {name value key : String}
    {path : List String} (member : (name, value) ∈ env)
    (gives : Environment.path? name = some (key :: path))
    (unknown : key ∉ fields.map Field.name) : ∃ fault, load document env = .error fault := by
  unfold load
  cases documentEntries document with
  | error fault => exact ⟨fault, rfl⟩
  | ok entries =>
    have given : key ∈ (Setting.mergeEntries entries env.entries).map Prod.fst :=
      Setting.mem_keys_mergeEntries.mpr (.inr (Environment.mem_keys_entries member gives))
    rcases takeEntries_of_unknown ({} : Config) unknown given with ⟨fault, refused⟩
    refine ⟨fault, ?_⟩
    rw [← ofEntries] at refused
    simp only [bind, Except.bind, refused]

end Config

/-! ## Runs -/

namespace CommandLine

/-- Without arguments the variable names the document. -/
theorem read_nil {env : Environment} {path : String} (named : env.get? configVariable = some path) :
    read [] env = .ok { config := path, validate := false } := by
  rw [read, Progress.takeAll, named]
  rfl

/-- An argument names the document, whatever the variables are. -/
theorem read_file {path : String} (plain : Word.ofArgument path = .plain) (env : Environment) :
    read ["-f", path] env = .ok { config := path, validate := false } := by
  have flag : Word.ofArgument "-f" = .short ['f'] := by decide
  have taken : Progress.takeAll {} ["-f", path] =
      .ok { config := some path, validate := false, pending := .nothing } := by
    rw [Progress.takeAll, flag, if_neg (by decide), Progress.take, flag]
    change Progress.takeAll { pending := .awaited } [path] = _
    rw [Progress.takeAll, plain, if_neg (by decide), Progress.take, plain]
    rfl
  rw [read, taken]
  rfl

end CommandLine

namespace Program

/-- A run that loads no configuration fails. -/
theorem exitCode_of_unloaded {arguments : List String} {env : Environment} {fs : FileSystem}
    {read : Arguments} (understood : CommandLine.read arguments env = .ok read)
    (unloaded : ∀ document, ∃ fault, Config.load document env = .error fault) :
    (run arguments env fs).exitCode = 1 := by
  rw [run, understood]
  dsimp only
  generalize Config.findFile? fs (.ofString read.config) = file
  rcases unloaded (file.map Prod.snd) with ⟨fault, refused⟩
  unfold plan
  rw [refused]
  cases file <;> rfl

end Program

/-- The variable that names the document gives a setting too. -/
theorem Environment.path?_configVariable :
    path? CommandLine.configVariable = some ["config"] := by
  decide +kernel

/-- The variable names the document as an argument does, but where it is set no document is
loaded, so that every run that gets that far fails. The two ways of naming a document agree
just where it cannot be loaded without the variable either. -/
theorem load_of_configVariable {env : Environment} {path : String}
    (named : env.get? CommandLine.configVariable = some path) :
    CommandLine.read [] env = .ok { config := path, validate := false } ∧
    (CommandLine.Word.ofArgument path = .plain →
      CommandLine.read ["-f", path] (env.unset CommandLine.configVariable) =
        .ok { config := path, validate := false }) ∧
    (∀ document, ∃ fault, Config.load document env = .error fault) ∧
    (∀ document, ((∃ c, Config.load document env = .ok c) ↔
      ∃ c, Config.load document (env.unset CommandLine.configVariable) = .ok c) ↔
        ∀ c, Config.load document (env.unset CommandLine.configVariable) ≠ .ok c) ∧
    ∀ arguments fs read, CommandLine.read arguments env = .ok read →
      (Program.run arguments env fs).exitCode = 1 := by
  have unloaded : ∀ document, ∃ fault, Config.load document env = .error fault := by
    intro document
    rcases List.lookup_eq_some_iff.mp named with ⟨before, after, rfl, -⟩
    have member : (CommandLine.configVariable, path) ∈
        before ++ (CommandLine.configVariable, path) :: after :=
      List.mem_append_right _ (List.mem_cons_self ..)
    apply Config.load_of_unknown member Environment.path?_configVariable
    decide
  refine ⟨CommandLine.read_nil named, fun plain => CommandLine.read_file plain _, unloaded, ?_,
    fun arguments fs read understood => Program.exitCode_of_unloaded understood unloaded⟩
  intro document
  rcases unloaded document with ⟨fault, refused⟩
  have never : ¬ ∃ c, Config.load document env = .ok c := by
    rintro ⟨c, loaded⟩
    rw [refused] at loaded
    cases loaded
  rw [iff_false_left never, not_exists]

/-- Under a variable that names the document, nothing is loaded next to another setting either. -/
theorem load_of_configVariable_with_port :
    ∃ fault, Config.load none
      [("INGESTCTL_CONFIG", "app.yaml"), ("INGESTCTL_PORT", "8080")] = .error fault := by
  have named : Environment.get? [("INGESTCTL_CONFIG", "app.yaml"), ("INGESTCTL_PORT", "8080")]
      CommandLine.configVariable = some "app.yaml" := rfl
  exact (load_of_configVariable named).2.2.1 none

/-- A document is loaded when an argument names it and refused when the variable does. -/
theorem load_of_configVariable_refused :
    CommandLine.read ["-f", "app.yaml"] [] = .ok { config := "app.yaml", validate := false } ∧
    (Config.load (some (Bytes.ofString "port: 8080\n")) []).toOption = some { port := 8080 } ∧
    CommandLine.read [] [("INGESTCTL_CONFIG", "app.yaml")] =
      .ok { config := "app.yaml", validate := false } ∧
    (Config.load (some (Bytes.ofString "port: 8080\n"))
      [("INGESTCTL_CONFIG", "app.yaml")]).toOption = none := by
  refine ⟨rfl, by decide +kernel, rfl, by decide +kernel⟩

end Intake
