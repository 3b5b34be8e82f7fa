import Intake.Proofs.Config.Ordering

/-!
# Paths into settings that lie over others

What is found at a path when one setting is laid over another: what the upper one holds there, laid
over what the lower one holds there (`at?_merge_of_some`), or what the lower one holds, if the upper
one holds nothing there and has only mappings on the way (`at?_merge_of_none`). A setting below
nested mappings holds something just at the fronts of its path and behind it (`at?_nest_cases`). So
what is found at a path stays there, unless something is laid over it that ends in front of the path
(`exists_at?_merge`, `clears_nest`).
-/

namespace Intake.Setting

/-- Nothing but mappings is in the way to a path. -/
def Clears (s : Setting) (path : List String) : Prop :=
  ∀ front key rest, path = front ++ key :: rest → ∀ found, at? front s = some found →
    found.IsMapping

variable {key : String} {path front rest : List String} {lower upper s : Setting}

/-! ## One path behind another -/

theorem at?_mapping (origin : Origin) (entries : Entries) (key : String) (path : List String) :
    at? (key :: path) (mapping origin entries) = (find? key entries).bind (at? path) :=
  rfl

theorem at?_key (origin : Origin) (entries : Entries) (key : String) :
    at? [key] (mapping origin entries) = find? key entries := by
  rw [at?_mapping]
  cases find? key entries <;> rfl

/-- In a mapping without entries there is nothing but itself. -/
theorem eq_nil_of_at?_nil {origin : Origin} {found : Setting}
    (holds : at? path (mapping origin []) = some found) : path = [] ∧ found = mapping origin [] := by
  cases path with
  | nil => exact ⟨rfl, (Option.some.inj holds).symm⟩
  | cons key path => cases holds

theorem at?_append (front rest : List String) (s : Setting) :
    at? (front ++ rest) s = (at? front s).bind (at? rest) := by
  induction front generalizing s with
  | nil => rfl
  | cons key front ih =>
    rw [List.cons_append, at?, at?]
    cases find? key s.entries with
    | none => rfl
    | some inner => exact ih inner

/-- What is found one key behind a mapping is what the key stands for there. -/
theorem at?_concat {origin : Origin} {entries : Entries}
    (there : at? front s = some (mapping origin entries)) (key : String) :
    at? (front ++ [key]) s = find? key entries := by
  rw [at?_append, there, Option.bind_some, at?_key]

theorem isMapping_of_at? {found : Setting} (holds : at? (key :: path) s = some found) :
    s.IsMapping := by
  cases s with
  | scalar origin value => cases holds
  | sequence origin items => cases holds
  | mapping origin entries => exact ⟨origin, entries, rfl⟩

/-- What has something behind a path is a mapping there. -/
theorem exists_mapping_of_at?_append {found : Setting}
    (holds : at? (front ++ key :: rest) s = some found) :
    ∃ inner, at? front s = some inner ∧ inner.IsMapping := by
  rw [at?_append] at holds
  obtain ⟨inner, there, behind⟩ := Option.bind_eq_some_iff.mp holds
  exact ⟨inner, there, isMapping_of_at? behind⟩

/-! ## Settings over settings -/

theorem isMapping_mergeOver (mapping : upper.IsMapping) (old : Option Setting) :
    (mergeOver old upper).IsMapping := by
  obtain ⟨origin, entries, rfl⟩ := mapping
  cases old with
  | none => exact ⟨origin, entries, rfl⟩
  | some old =>
    rw [mergeOver]
    by_cases keyed : old.IsMapping
    · obtain ⟨other, lower, rfl⟩ := keyed
      exact ⟨_, _, merge_mapping ..⟩
    · exact ⟨_, _, merge_of_not_isMapping keyed _⟩

theorem mergeOver_scalar (old : Option Setting) (origin : Origin) (value : Scalar) :
    mergeOver old (scalar origin value) = scalar origin value := by
  cases old with
  | none => rfl
  | some old => exact merge_scalar old origin value

/-- What a key stands for in a setting over which a mapping was laid. -/
theorem find?_merge {origin : Origin} {entries : Entries} (ordered : OrderedEntries entries)
    (key : String) (lower : Setting) :
    find? key (merge lower (mapping origin entries)).entries =
      match find? key entries with
      | some value => some (mergeOver (find? key lower.entries) value)
      | none => find? key lower.entries := by
  by_cases keyed : lower.IsMapping
  · obtain ⟨other, old, rfl⟩ := keyed
    rw [merge_mapping]
    exact find?_mergeEntries ordered.unique key old
  · have empty : lower.entries = [] := by
      cases lower with
      | mapping other old => exact absurd ⟨_, _, rfl⟩ keyed
      | _ => rfl
    rw [merge_of_not_isMapping keyed, empty]
    change find? key entries = _
    cases find? key entries <;> rfl

/-- Where the upper setting holds something, that is found, laid over what the lower one holds. -/
theorem at?_merge_of_some (ordered : upper.Ordered) (holds : at? path upper = some s) :
    at? path (merge lower upper) = some (mergeOver (at? path lower) s) := by
  induction path generalizing lower upper with
  | nil =>
    rw [at?, Option.some.injEq] at holds
    rw [← holds]
    rfl
  | cons key path ih =>
    obtain ⟨origin, entries, rfl⟩ := isMapping_of_at? holds
    obtain ⟨value, there, inside⟩ := Option.bind_eq_some_iff.mp holds
    change find? key entries = some value at there
    rw [at?, find?_merge ordered.entries, there, at?]
    dsimp only [Option.bind_some]
    cases find? key lower.entries with
    | none => exact inside
    | some old => exact ih (ordered.entries.inside _ (mem_of_find? there)) inside

/-- Where the upper setting holds nothing, and only mappings are in the way, the lower one counts. -/
theorem at?_merge_of_none (ordered : upper.Ordered) (clear : upper.Clears path)
    (lacks : at? path upper = none) : at? path (merge lower upper) = at? path lower := by
  induction path generalizing lower upper with
  | nil => cases lacks
  | cons key path ih =>
    obtain ⟨origin, entries, rfl⟩ := clear [] key path rfl upper rfl
    rw [at?, find?_merge ordered.entries, at?]
    rw [at?] at lacks
    change (find? key entries).bind _ = none at lacks
    cases there : find? key entries with
    | none => rfl
    | some value =>
      rw [there] at lacks
      dsimp only [Option.bind_some]
      cases find? key lower.entries with
      | none => exact lacks
      | some old =>
        apply ih (ordered.entries.inside _ (mem_of_find? there)) _ lacks
        intro front next rest split found holds
        apply clear (key :: front) next rest (by rw [split]; rfl) found
        rw [at?]
        change (find? key entries).bind _ = _
        rw [there]
        exact holds

/-! ## Settings below nested mappings -/

theorem at?_nest_append (origin : Origin) (value : Setting) (front rest : List String) :
    at? front (nest origin value (front ++ rest)) = some (nest origin value rest) := by
  induction front with
  | nil => rfl
  | cons key front ih =>
    rw [List.cons_append, nest, at?, entries, find?, if_pos rfl]
    exact ih

theorem at?_nest_self (origin : Origin) (value : Setting) (path : List String) :
    at? path (nest origin value path) = some value := by
  have whole := at?_nest_append origin value path []
  rwa [List.append_nil] at whole

/-- What is found in a setting below nested mappings: one of them, in front of the end of its path,
or something in the setting itself. -/
theorem at?_nest_cases {origin : Origin} {value found : Setting} {other : List String}
    (holds : at? other (nest origin value path) = some found) :
    (∃ key rest, path = other ++ key :: rest ∧ found.IsMapping) ∨
      ∃ behind, other = path ++ behind ∧ at? behind value = some found := by
  induction path generalizing other with
  | nil => exact .inr ⟨other, rfl, holds⟩
  | cons key path ih =>
    cases other with
    | nil =>
      rw [at?, Option.some.injEq] at holds
      exact .inl ⟨key, path, rfl, _, _, holds.symm⟩
    | cons first other =>
      rw [nest, at?, entries, find?] at holds
      split at holds
      · next same =>
        rcases ih holds with ⟨next, rest, split, isMapping⟩ | ⟨behind, split, inside⟩
        · exact .inl ⟨next, rest, by rw [same, split]; rfl, isMapping⟩
        · exact .inr ⟨behind, by rw [same, split]; rfl, inside⟩
      · cases holds

/-! ## Paths that stay clear -/

/-- A setting below nested mappings is in the way just to what is behind it. -/
theorem clears_nest {other : List String} (notAbove : other <+: path → other = path)
    (origin : Origin) (value : Setting) : (nest origin value other).Clears path := by
  intro front key rest split found holds
  rcases at?_nest_cases holds with ⟨-, -, -, mapping⟩ | ⟨behind, same, -⟩
  · exact mapping
  · rw [same, List.append_assoc] at split
    have lengths := congrArg List.length ((notAbove ⟨_, split.symm⟩).trans split)
    simp only [List.length_append, List.length_cons] at lengths
    omega

theorem Clears.merge (below : lower.Clears path) (ordered : upper.Ordered)
    (above : upper.Clears path) : (merge lower upper).Clears path := by
  intro front key rest split found holds
  cases there : at? front upper with
  | some s =>
    rw [at?_merge_of_some ordered there, Option.some.injEq] at holds
    rw [← holds]
    exact isMapping_mergeOver (above front key rest split s there) _
  | none =>
    have clear : upper.Clears front := by
      intro first next behind split'
      exact above first next (behind ++ key :: rest) (by rw [split, split']; simp)
    rw [at?_merge_of_none ordered clear there] at holds
    exact below front key rest split found holds

/-- What is found at a path is not lost, if nothing is laid over it that ends in front of the
path. -/
theorem exists_at?_merge (ordered : upper.Ordered) (clear : upper.Clears path)
    (holds : at? path lower = some s) : ∃ found, at? path (merge lower upper) = some found := by
  cases there : at? path upper with
  | some value => exact ⟨_, at?_merge_of_some ordered there⟩
  | none => exact ⟨s, (at?_merge_of_none ordered clear there).trans holds⟩

end Intake.Setting
