import Intake.Proofs.Config.Records
import Intake.Proofs.Http.Reservation
import Mathlib.Data.List.Infix

/-!
# Layers of a configuration

A document and the variables over it are merged leaf by leaf: a leaf comes from the last variable
that names it, else from the document, else from its default, whatever is given for the leaves next
to it. Nothing undeclared may be left once they are merged. A key beneath a leaf is not left, if a
variable names that leaf later on and so takes the place of the whole mapping that the key was in.

* `Declares.merge`, `Declares.at?_merge`: leaves lie over leaves one by one.
* `root_induction`: what laying one variable over others keeps, all variables keep.
* `load_of_declares`: what is loaded where nothing undeclared is given.
* `load_of_undeclared_document`, `load_of_undeclared_variable`: what is refused.
* `load_layers`: all of it. `load_shadowed` shows a key that is not left.
-/

namespace Intake

open Setting

namespace Config

/-! ## Paths of leaves -/

namespace Leaf

theorem path_injective {leaf other : Leaf} (same : leaf.path = other.path) : leaf = other :=
  name_injective (List.singleton_inj.mp (List.append_inj' same rfl).2)

theorem group_mem_groups (leaf : Leaf) : leaf.group ∈ groups := by
  cases leaf <;> decide

theorem path_not_mem_groups (leaf : Leaf) : leaf.path ∉ groups := by
  cases leaf <;> decide

theorem at?_nil (leaf : Leaf) (origin : Origin) : at? leaf.path (.mapping origin []) = none := by
  cases leaf <;> rfl

end Leaf

/-- In front of a group there are only groups. -/
theorem mem_groups_of_front {group front : List String} (known : group ∈ groups)
    (front_ : front <+: group) : front ∈ groups := by
  have all : ∀ group ∈ groups, ∀ front ∈ group.inits, front ∈ groups := by decide
  exact all group known front ((List.mem_inits front group).mpr front_)

/-- What goes on behind a front of a path does so within the path's group. -/
theorem prefix_of_append_eq {front rest group : List String} {next key : String}
    (same : front ++ next :: rest = group ++ [key]) : front <+: group := by
  have shorter : front.length ≤ group.length := by
    have lengths := congrArg List.length same
    simp only [List.length_append, List.length_cons, List.length_nil] at lengths
    omega
  exact List.prefix_of_prefix_length_le ⟨_, same⟩ ⟨_, rfl⟩ shorter

/-- A leaf is not behind another one. -/
theorem Leaf.path_ne_append (leaf other : Leaf) (key : String) (rest : List String) :
    leaf.path ≠ other.path ++ key :: rest := by
  intro same
  exact other.path_not_mem_groups
    (mem_groups_of_front leaf.group_mem_groups (prefix_of_append_eq same.symm))

/-! ## Leaves over leaves -/

variable {lower upper : Setting}

/-- A leaf of a setting that lies over another one is the upper one's, if it has it. -/
theorem Declares.at?_merge (ordered : upper.Ordered) (declares : Declares upper) (leaf : Leaf)
    (lower : Setting) :
    at? leaf.path (merge lower upper) = (at? leaf.path upper).or (at? leaf.path lower) := by
  cases there : at? leaf.path upper with
  | some s =>
    rw [at?_merge_of_some ordered there]
    rcases declares _ _ there with ⟨known, -⟩ | ⟨owner, -, typed⟩
    · exact absurd known leaf.path_not_mem_groups
    · rw [typed.mergeOver_eq]
      rfl
  | none =>
    refine at?_merge_of_none ordered ?_ there
    intro front key rest split found holds
    rcases declares _ _ holds with ⟨-, mapping⟩ | ⟨owner, rfl, -⟩
    · exact mapping
    · exact absurd split (leaf.path_ne_append owner key rest)

/-- Leaves of their types that lie over such are such. -/
theorem Declares.merge (below : Declares lower) (ordered : upper.Ordered)
    (above : Declares upper) : Declares (merge lower upper) := by
  intro path found holds
  cases there : at? path upper with
  | some s =>
    rw [at?_merge_of_some ordered there, Option.some.injEq] at holds
    rw [← holds]
    rcases above _ _ there with ⟨known, mapping⟩ | ⟨leaf, rfl, typed⟩
    · exact .inl ⟨known, isMapping_mergeOver mapping _⟩
    · rw [typed.mergeOver_eq]
      exact .inr ⟨leaf, rfl, typed⟩
  | none =>
    by_cases clear : upper.Clears path
    · rw [at?_merge_of_none ordered clear there] at holds
      exact below _ _ holds
    · -- A leaf is in the way, and lies over all that is behind it in the lower setting.
      simp only [Clears, not_forall] at clear
      obtain ⟨front, key, rest, rfl, s, before, noMapping⟩ := clear
      obtain ⟨inner, between, mapping⟩ := exists_mapping_of_at?_append holds
      rcases above _ _ before with ⟨-, mapping⟩ | ⟨leaf, rfl, typed⟩
      · exact absurd mapping noMapping
      · rw [at?_merge_of_some ordered before, typed.mergeOver_eq, Option.some.injEq] at between
        rw [← between] at mapping
        exact absurd mapping noMapping

/-- A leaf of its type, below the mappings that it is in, is all that is there. -/
theorem declares_nest {leaf : Leaf} {s : Setting} (typed : leaf.Typed s) (origin : Origin) :
    Declares (nest origin s leaf.path) := by
  intro path found holds
  rcases at?_nest_cases holds with ⟨key, rest, split, mapping⟩ | ⟨behind, rfl, inside⟩
  · exact .inl ⟨mem_groups_of_front leaf.group_mem_groups (prefix_of_append_eq split.symm), mapping⟩
  · cases behind with
    | nil =>
      obtain rfl := Option.some.inj inside
      exact .inr ⟨leaf, List.append_nil _, typed⟩
    | cons key behind =>
      exact absurd (isMapping_of_at? inside) typed.not_isMapping

/-- One leaf below the mappings that it is in is the only one there. -/
theorem at?_nest_leaf (leaf other : Leaf) (s : Setting) (origin : Origin) :
    at? other.path (nest origin s leaf.path) = if leaf = other then some s else none := by
  split
  · next same =>
    rw [same]
    exact at?_nest_self origin s other.path
  · next differs =>
    rw [Option.eq_none_iff_forall_ne_some]
    intro found holds
    rcases at?_nest_cases holds with ⟨key, rest, split, -⟩ | ⟨behind, split, -⟩
    · exact leaf.path_ne_append other key rest split
    · cases behind with
      | nil => exact differs (Leaf.path_injective (split.trans (List.append_nil _)).symm)
      | cons key behind => exact other.path_ne_append leaf key behind split

theorem declares_nil (origin : Origin) : Declares (.mapping origin []) := by
  intro path found holds
  obtain ⟨rfl, rfl⟩ := eq_nil_of_at?_nil holds
  exact .inl ⟨by decide, origin, [], rfl⟩

end Config

/-! ## Variables over variables -/

namespace Environment

theorem words_ne_nil (cs : List Char) : words cs ≠ [] := by
  unfold words
  split
  · exact nofun
  · exact nofun
  · split
    · exact nofun
    · split <;> exact nofun

theorem exists_key_of_path? {name : String} {path : List String}
    (gives : path? name = some path) : ∃ key rest, path = key :: rest := by
  cases path with
  | cons key rest => exact ⟨key, rest, rfl⟩
  | nil =>
    unfold path? at gives
    split at gives
    · cases gives
    · next rest _ =>
      dsimp only at gives
      split at gives
      · cases gives
      · exact absurd (List.map_eq_nil_iff.mp (Option.some.inj gives)) (words_ne_nil _)

/-- What variables give, as one setting. -/
def root (env : Environment) : Setting :=
  .mapping .environment env.entries

/-- What the last one of the variables gives that name a path. -/
def given? (env : Environment) (path : List String) : Option Setting :=
  (env.reverse.find? fun variable_ => path? variable_.1 == some path).map fun variable_ =>
    settingOfValue variable_.2

/-- Variables name nothing but leaves, and give settings of their types. -/
def Declares (env : Environment) : Prop :=
  ∀ variable_ ∈ env, ∀ path, path? variable_.1 = some path →
    ∃ leaf : Config.Leaf, path = leaf.path ∧ leaf.Typed (settingOfValue variable_.2)

/-- A variable names a key that leads on to a path. -/
def NamesAbove (env : Environment) (path : List String) : Prop :=
  ∃ variable_ ∈ env, ∃ front key rest,
    path? variable_.1 = some front ∧ path = front ++ key :: rest

variable {env before after : Environment} {name value : String} {path : List String}

theorem declares_singleton {leaf : Config.Leaf} (gives : path? name = some leaf.path)
    (typed : leaf.Typed (settingOfValue value)) : Declares [(name, value)] := by
  intro variable_ member path named
  obtain rfl := List.mem_singleton.mp member
  exact ⟨leaf, Option.some.inj (named.symm.trans gives), typed⟩

theorem not_namesAbove_singleton {other : List String} (gives : path? name = some other)
    (notAbove : ¬ other <+: path) : ¬ NamesAbove [(name, value)] path := by
  rintro ⟨variable_, member, front, key, rest, named, split⟩
  obtain rfl := List.mem_singleton.mp member
  obtain rfl := Option.some.inj (gives.symm.trans named)
  exact notAbove ⟨_, split.symm⟩

/-- The last variable lies over the others. -/
theorem root_concat (gives : path? name = some path) :
    root (env ++ [(name, value)]) =
      merge env.root (nest .environment (settingOfValue value) path) := by
  obtain ⟨key, rest, rfl⟩ := exists_key_of_path? gives
  rw [root, entries_concat, entriesOf, gives, root, nest, merge_mapping]
  rfl

/-- A variable that gives no setting changes nothing. -/
theorem root_concat_of_none (gives : path? name = none) :
    root (env ++ [(name, value)]) = env.root := by
  rw [root, entries_concat, entriesOf, gives, mergeEntries, root]

theorem given?_concat (env : Environment) (last : String × String) (path : List String) :
    given? (env ++ [last]) path =
      if path? last.1 = some path then some (settingOfValue last.2) else env.given? path := by
  unfold given?
  rw [List.reverse_append, List.reverse_singleton, List.singleton_append, List.find?_cons]
  by_cases named : path? last.1 = some path
  · rw [if_pos named, named, beq_self_eq_true]
    rfl
  · rw [if_neg named, beq_eq_false_iff_ne.mpr named]

/-- What holds of the first variables holds of all, if each of the others keeps it when it is laid
over those in front of it. -/
theorem root_induction {motive : Setting → Prop} (start : motive before.root)
    (laid : ∀ variable_ ∈ after, ∀ path, path? variable_.1 = some path → ∀ s, motive s →
      motive (merge s (nest .environment (settingOfValue variable_.2) path))) :
    motive (root (before ++ after)) := by
  induction after using List.reverseRecOn with
  | nil =>
    rw [List.append_nil]
    exact start
  | append_singleton after last ih =>
    have front : motive (root (before ++ after)) :=
      ih fun variable_ member => laid variable_ (List.mem_append_left _ member)
    obtain ⟨name, value⟩ := last
    rw [← List.append_assoc]
    cases gives : path? name with
    | none =>
      rw [root_concat_of_none gives]
      exact front
    | some path =>
      rw [root_concat gives]
      exact laid (name, value) (List.mem_append_right _ (List.mem_singleton_self _)) path gives _
        front

theorem ordered_root (env : Environment) : env.root.Ordered :=
  env.ordered_entries.mapping .environment

/-! ## Leaves that variables give -/

/-- Variables that name nothing but leaves give nothing else. -/
theorem Declares.root (declares : env.Declares) : Config.Declares env.root := by
  rw [← List.nil_append env]
  apply root_induction (Config.declares_nil .environment)
  intro variable_ member path gives s below
  obtain ⟨leaf, rfl, typed⟩ := declares variable_ member path gives
  exact below.merge ((ordered_settingOfValue _).nest .environment _)
    (Config.declares_nest typed .environment)

/-- A leaf is what the last variable gives that names it. -/
theorem Declares.at?_root (declares : env.Declares) (leaf : Config.Leaf) :
    at? leaf.path env.root = env.given? leaf.path := by
  induction env using List.reverseRecOn with
  | nil => exact leaf.at?_nil .environment
  | append_singleton before last ih =>
    have others : Declares before := fun variable_ member =>
      declares variable_ (List.mem_append_left _ member)
    obtain ⟨name, value⟩ := last
    rw [given?_concat]
    cases gives : path? name with
    | none =>
      rw [root_concat_of_none gives, if_neg nofun]
      exact ih others
    | some path =>
      obtain ⟨owner, rfl, typed⟩ :=
        declares (name, value) (List.mem_append_right _ (List.mem_singleton_self _)) path gives
      rw [root_concat gives, (Config.declares_nest typed _).at?_merge
        ((ordered_settingOfValue _).nest .environment _), Config.at?_nest_leaf]
      by_cases same : owner = leaf
      · rw [if_pos same, same, if_pos rfl]
        rfl
      · have differs : some owner.path ≠ some leaf.path := fun both =>
          same (Config.Leaf.path_injective (Option.some.inj both))
        rw [if_neg same, if_neg differs]
        exact ih others

/-! ## Paths that variables leave alone -/

/-- A variable that names no key above a path is not in the way to it. -/
theorem clears_of_not_namesAbove (notAbove : ¬ env.NamesAbove path) {variable_ : String × String}
    (member : variable_ ∈ env) {other : List String} (gives : path? variable_.1 = some other) :
    (nest .environment (settingOfValue variable_.2) other).Clears path := by
  apply clears_nest
  rintro ⟨rest, split⟩
  cases rest with
  | nil => rw [← split, List.append_nil]
  | cons key rest => exact absurd ⟨variable_, member, other, key, rest, gives, split.symm⟩ notAbove

/-- Variables that name no key above a path are not in the way to it. -/
theorem clears_root (notAbove : ¬ env.NamesAbove path) : env.root.Clears path := by
  rw [← List.nil_append env]
  apply root_induction (motive := fun s => s.Clears path)
  · intro front key rest split found holds
    obtain ⟨-, rfl⟩ := eq_nil_of_at?_nil holds
    exact ⟨.environment, [], rfl⟩
  · intro variable_ member other gives s below
    exact below.merge ((ordered_settingOfValue _).nest .environment _)
      (clears_of_not_namesAbove notAbove member gives)

/-- What a variable gives is found among what all give, if no later one names a key above it. -/
theorem exists_at?_root (gives : path? name = some path) (notAbove : ¬ after.NamesAbove path) :
    ∃ found, at? path (root (before ++ (name, value) :: after)) = some found := by
  rw [List.append_cons]
  apply root_induction (motive := fun s => ∃ found, at? path s = some found)
  · rw [root_concat gives]
    exact ⟨_, at?_merge_of_some ((ordered_settingOfValue _).nest .environment _)
      (at?_nest_self .environment _ path)⟩
  · rintro variable_ member other named s ⟨found, there⟩
    exact exists_at?_merge ((ordered_settingOfValue _).nest .environment _)
      (clears_of_not_namesAbove notAbove member named) there

end Environment

/-! ## Variables over a document -/

namespace Config

variable {document : Option Bytes} {env : Environment} {entries : Entries}

theorem validated_eq_ok_iff {c c' : Config} :
    validated c = .ok c' ↔ c = c' ∧ c.validate = .ok () := by
  unfold validated
  cases c.validate <;> simp

theorem load_eq_ok_iff {c : Config} :
    load document env = .ok c ↔
      ∃ entries, documentEntries document = .ok entries ∧
        ofEntries (mergeEntries entries env.entries) = .ok c ∧ c.validate = .ok () := by
  constructor
  · intro loaded
    obtain ⟨entries, read, loaded⟩ := bind_eq_ok loaded
    obtain ⟨c', taken, accepted⟩ := bind_eq_ok loaded
    obtain ⟨rfl, valid⟩ := validated_eq_ok_iff.mp accepted
    exact ⟨entries, read, taken, valid⟩
  · rintro ⟨entries, read, taken, valid⟩
    rw [load, read]
    change (ofEntries _ >>= validated) = _
    rw [taken]
    exact validated_eq_ok_iff.mpr ⟨rfl, valid⟩

/-- Where a document and the variables over it give nothing undeclared, a leaf is what the last
variable gives that names it, else what the document gives, else its default, and the configuration
is loaded just if the limits that must be positive are. -/
theorem load_of_declares (read : documentEntries document = .ok entries)
    (document_ : Declares (.mapping .file entries)) (variables_ : env.Declares) :
    ∃ c, (∀ leaf : Leaf,
        leaf.Follows ((env.given? leaf.path).or (at? leaf.path (.mapping .file entries))) c) ∧
      ∀ c', load document env = .ok c' ↔
        c' = c ∧ 0 < c.files.maxFileSize ∧ 0 < c.files.memoryLimit ∧ c.files.chunkSize ≠ some 0 := by
  have laid : merge (.mapping .file entries) env.root =
      .mapping .environment (mergeEntries entries env.entries) := merge_mapping ..
  have declares := document_.merge env.ordered_root variables_.root
  rw [laid] at declares
  obtain ⟨c, taken, follows⟩ :=
    ofEntries_of_declares ((ordered_documentEntries read).layered env.ordered_entries) declares
  refine ⟨c, fun leaf => ?_, fun c' => ?_⟩
  · rw [← variables_.at?_root leaf, ← variables_.root.at?_merge env.ordered_root, laid]
    exact follows leaf
  · rw [load_eq_ok_iff, Nat.pos_iff_ne_zero, Nat.pos_iff_ne_zero]
    constructor
    · rintro ⟨entries', read', taken', valid⟩
      obtain rfl := Except.ok.inj (read.symm.trans read')
      obtain rfl := Except.ok.inj (taken.symm.trans taken')
      exact ⟨rfl, validate_eq_ok_iff.mp valid⟩
    · rintro ⟨rfl, limits⟩
      exact ⟨entries, read, taken, validate_eq_ok_iff.mpr limits⟩

/-- Nothing is loaded where something undeclared is left. -/
theorem load_of_left {path : List String} (undeclared : ¬ IsDeclared path)
    (left : ∀ entries, documentEntries document = .ok entries →
      ∃ found, at? path (merge (.mapping .file entries) env.root) = some found) :
    ∃ fault, load document env = .error fault := by
  cases loaded : load document env with
  | error fault => exact ⟨fault, rfl⟩
  | ok c =>
    obtain ⟨entries, read, taken, -⟩ := load_eq_ok_iff.mp loaded
    obtain ⟨found, there⟩ := left entries read
    rw [Environment.root, merge_mapping] at there
    exact absurd taken (ofEntries_of_not_isDeclared undeclared there)

/-- Nothing is loaded from a document that gives something undeclared, if no variable takes the
place of a mapping that it is in. -/
theorem load_of_undeclared_document (read : documentEntries document = .ok entries)
    {path : List String} {found : Setting} (undeclared : ¬ IsDeclared path)
    (given : at? path (.mapping .file entries) = some found) (notAbove : ¬ env.NamesAbove path) :
    ∃ fault, load document env = .error fault := by
  apply load_of_left undeclared
  intro entries' read'
  obtain rfl := Except.ok.inj (read.symm.trans read')
  exact exists_at?_merge env.ordered_root (Environment.clears_root notAbove) given

/-- Nothing is loaded under a variable that gives something undeclared, if no later one takes the
place of a mapping that it is in. -/
theorem load_of_undeclared_variable {before after : Environment} {name value : String}
    {path : List String} (gives : Environment.path? name = some path)
    (undeclared : ¬ IsDeclared path) (notAbove : ¬ Environment.NamesAbove after path) :
    ∃ fault, load document (before ++ (name, value) :: after) = .error fault := by
  apply load_of_left undeclared
  intro entries read
  obtain ⟨found, there⟩ := Environment.exists_at?_root gives notAbove
  exact ⟨_, at?_merge_of_some (Environment.ordered_root _) there⟩

/-- A document and the variables over it come to a configuration leaf by leaf, and nothing
undeclared is left in one that is loaded. -/
theorem load_layers (document : Option Bytes) (env : Environment) :
    (∀ entries, documentEntries document = .ok entries → Declares (.mapping .file entries) →
      env.Declares →
        ∃ c, (∀ leaf : Leaf,
            leaf.Follows ((env.given? leaf.path).or (at? leaf.path (.mapping .file entries))) c) ∧
          ∀ c', load document env = .ok c' ↔
            c' = c ∧ 0 < c.files.maxFileSize ∧ 0 < c.files.memoryLimit ∧
              c.files.chunkSize ≠ some 0) ∧
    (∀ entries path found, documentEntries document = .ok entries → ¬ IsDeclared path →
      at? path (.mapping .file entries) = some found → ¬ env.NamesAbove path →
        ∃ fault, load document env = .error fault) ∧
    ∀ before name value after path, env = before ++ (name, value) :: after →
      Environment.path? name = some path → ¬ IsDeclared path →
      ¬ Environment.NamesAbove after path → ∃ fault, load document env = .error fault := by
  refine ⟨fun entries read document_ variables_ => load_of_declares read document_ variables_,
    fun entries path found read undeclared given notAbove =>
      load_of_undeclared_document read undeclared given notAbove, ?_⟩
  rintro before name value after path rfl gives undeclared notAbove
  exact load_of_undeclared_variable gives undeclared notAbove

/-- A limit from a document and one from a variable stand side by side. Next to them an unknown one
is refused, wherever it is from. -/
theorem load_layers_siblings :
    (∃ c, load (some (Bytes.ofString "limits:\n  files:\n    max_file_size: 7\n"))
        [("INGESTCTL_LIMITS__FILES__MEMORY_LIMIT", "9")] = .ok c ∧
      c.files.maxFileSize = 7 ∧ c.files.memoryLimit = 9 ∧ c.port = 3000) ∧
    (∃ fault, load (some (Bytes.ofString "limits:\n  files:\n    max_size: 7\n"))
      [("INGESTCTL_LIMITS__FILES__MEMORY_LIMIT", "9")] = .error fault) ∧
    ∃ fault, load (some (Bytes.ofString "limits:\n  files:\n    max_file_size: 7\n"))
      [("INGESTCTL_LIMITS__FILES__MEMORY", "9"), ("INGESTCTL_PORT", "8080")] = .error fault := by
  have limit : Environment.path? "INGESTCTL_LIMITS__FILES__MEMORY_LIMIT" =
      some Leaf.memoryLimit.path := by decide +kernel
  refine ⟨?_, ?_, ?_⟩
  · have read : documentEntries (some (Bytes.ofString "limits:\n  files:\n    max_file_size: 7\n")) =
        .ok (nest .file (.scalar .file (.unsigned 7)) Leaf.maxFileSize.path).entries := by
      decide +kernel
    have seven : Leaf.maxFileSize.Typed (.scalar .file (.unsigned 7)) :=
      ⟨7, isNumber_unsigned_iff.mpr ⟨rfl, by decide⟩⟩
    have nine : Leaf.memoryLimit.Typed (Environment.settingOfValue "9") :=
      ⟨9, isNumber_unsigned_iff.mpr ⟨rfl, by decide⟩⟩
    obtain ⟨c, follows, loaded⟩ := (load_layers _ _).1 _ read (declares_nest seven .file)
      (Environment.declares_singleton limit nine)
    have size : c.files.maxFileSize = 7 := (isNumber_unsigned_iff.mp (follows .maxFileSize)).1
    have memory : c.files.memoryLimit = 9 := (isNumber_unsigned_iff.mp (follows .memoryLimit)).1
    have steps : c.files.chunkSize ≠ some 0 := by
      rw [show c.files.chunkSize = _ from follows .chunkSize]
      decide
    refine ⟨c, (loaded c).mpr ⟨rfl, ?_, ?_, steps⟩, size, memory, follows .port⟩
    · rw [size]
      decide
    · rw [memory]
      decide
  · have read : documentEntries (some (Bytes.ofString "limits:\n  files:\n    max_size: 7\n")) =
        .ok (nest .file (.scalar .file (.unsigned 7)) ["limits", "files", "max_size"]).entries := by
      decide +kernel
    exact (load_layers _ _).2.1 _ ["limits", "files", "max_size"] _ read (by decide) (at?_nest_self ..)
      (Environment.not_namesAbove_singleton limit (by decide))
  · have port : Environment.path? "INGESTCTL_PORT" = some Leaf.port.path := by decide +kernel
    exact (load_layers _ _).2.2 [] "INGESTCTL_LIMITS__FILES__MEMORY" "9" [("INGESTCTL_PORT", "8080")]
      ["limits", "files", "memory"] rfl (by decide +kernel) (by decide)
      (Environment.not_namesAbove_singleton port (by decide))

/-- A key beneath the port is not left, from a variable as from the document, once a later variable
takes the place of the mapping that it is in: the port is loaded. -/
theorem load_shadowed :
    ¬ IsDeclared ["port", "x"] ∧ Environment.Declares [("ingestctl_port", "8080")] ∧
    (Environment.path? "INGESTCTL_PORT__X" = some ["port", "x"] ∧
      load none [("INGESTCTL_PORT__X", "5"), ("ingestctl_port", "8080")] = .ok { port := 8080 }) ∧
    documentEntries (some (Bytes.ofString "port:\n  x: 5\n")) =
      .ok [("port", .mapping .file [("x", .scalar .file (.unsigned 5))])] ∧
    load (some (Bytes.ofString "port:\n  x: 5\n")) [("ingestctl_port", "8080")] =
      .ok { port := 8080 } := by
  have port : Environment.path? "ingestctl_port" = some Leaf.port.path := by decide +kernel
  refine ⟨by decide, Environment.declares_singleton port ?_, ⟨by decide +kernel, by decide +kernel⟩,
    by decide +kernel, by decide +kernel⟩
  exact ⟨8080, isNumber_unsigned_iff.mpr ⟨rfl, by decide⟩⟩

end Config

end Intake
