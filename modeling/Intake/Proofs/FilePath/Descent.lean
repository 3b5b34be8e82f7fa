import Intake.Destination
import Intake.Proofs.FilePath.Joining
import Intake.Proofs.FileSystem.Creation

/-!
# Paths that lead down

A path leads down from another one if it goes on from there by steps that are texts and do not
go up. A destination lies behind every base directory at the same place (`resolve_cases`), so its
path leads down from the base directory (`leadsDown_of_resolve`), and without links beneath that
directory a file that is created there lies beneath it (`beneath_of_parent`).
-/

namespace Intake

namespace FilePath

/-- A relative path that only goes down, by steps that are texts. -/
structure Descends (tail : FilePath) : Prop where
  relative : tail.isAbsolute = false
  down : ∀ step ∈ tail.steps, FileSystem.isUp step = false ∧ ∃ s : String, step = Bytes.ofString s

/-- `p` goes on from `base` by the steps `down`, which are texts and do not go up. -/
structure LeadsDown (p base : FilePath) (down : List Bytes) : Prop where
  steps : p.steps = base.steps ++ down
  start : base.octets ≠ [] → p.octets ≠ [] ∧ p.isAbsolute = base.isAbsolute
  down : ∀ step ∈ down, FileSystem.isUp step = false ∧ ∃ s : String, step = Bytes.ofString s

/-- What is put behind a path leads down from it, if it only goes down. -/
theorem Descends.leadsDown {tail : FilePath} (descends : tail.Descends) (base : FilePath) :
    (base.join tail).LeadsDown base tail.steps where
  steps := steps_join base descends.relative
  start := fun nonempty => by
    refine ⟨?_, isAbsolute_join descends.relative nonempty⟩
    rw [octets_join base descends.relative]
    simp [nonempty]
  down := descends.down

/-! ## Paths that were spelled as texts -/

theorem text_of_mem_steps {s : String} {step : Bytes} (member : step ∈ (ofString s).steps) :
    ∃ text : String, step = Bytes.ofString text := by
  rcases List.mem_filter.mp member with ⟨inside, -⟩
  rcases Bytes.text_of_splitAll inside with ⟨text, rfl⟩
  exact ⟨String.ofList text, (Bytes.ofString_ofList text).symm⟩

/-- A text all of whose components are names only goes down. -/
theorem descends_of_names {s : String}
    (names : (ofString s).components.all Component.isName = true) : (ofString s).Descends where
  relative := by
    cases absolute : (ofString s).isAbsolute with
    | false => rfl
    | true =>
      rw [components, start, if_pos absolute, List.cons_append, List.all_cons] at names
      cases names
  down := by
    intro step member
    refine ⟨Bool.eq_false_iff.mpr fun climbs => ?_, text_of_mem_steps member⟩
    have up : step = [Bytes.dot, Bytes.dot] := beq_iff_eq.mp climbs
    have inside : Component.up ∈ (ofString s).components := by
      rw [components_eq]
      exact List.mem_append_right _
        (List.mem_filterMap.mpr ⟨step, member, by rw [up]; rfl⟩)
    cases List.all_eq_true.mp names _ inside

/-! ## Paths that land at a name -/

/-- A relative path that only goes down, to a name. -/
structure Lands (tail : FilePath) : Prop extends tail.Descends where
  named : ∃ name, Component.name name ∈ tail.components

theorem Lands.steps_ne_nil {tail : FilePath} (lands : tail.Lands) : tail.steps ≠ [] := by
  obtain ⟨name, member⟩ := lands.named
  exact steps_ne_nil_of_name member

theorem Lands.octets_ne_nil {tail : FilePath} (lands : tail.Lands) : tail.octets ≠ [] := by
  intro empty
  exact lands.steps_ne_nil (by simp [steps, segments, empty, Bytes.splitAll])

/-- A name to land at can be put behind a path that goes down. -/
theorem Descends.lands_join {directory tail : FilePath} (descends : directory.Descends)
    (lands : tail.Lands) : (directory.join tail).Lands := by
  have steps := steps_join directory lands.relative
  refine ⟨⟨relative_join descends.relative lands.relative, fun step member => ?_⟩, ?_⟩
  · rw [steps] at member
    exact (List.mem_append.mp member).elim (descends.down step) (lands.down step)
  · obtain ⟨name, member⟩ := lands.named
    refine ⟨name, ?_⟩
    rw [components_eq, steps, List.filterMap_append]
    exact List.mem_append_right _ (List.mem_append_right _ (mem_filterMap_of_name member))

end FilePath

/-! ## Destinations -/

namespace Destination

open FilePath

/-- The client's name for a file is a name to land at. -/
theorem lands_clientFileName {filename : String} {tail : FilePath}
    (h : clientFileName filename = .ok tail) : tail.Lands := by
  unfold clientFileName at h
  dsimp only at h
  split at h
  · next name single =>
    obtain rfl := Except.ok.inj h
    refine ⟨descends_of_names ?_, name, ?_⟩
    · rw [single]; rfl
    · rw [single]; exact List.mem_singleton.mpr rfl
  · cases h

/-- An override name lands at the last of its plain parts. -/
theorem lands_containedPath {target : String} {tail : FilePath}
    (h : containedPath target = .ok tail) : tail.Lands := by
  unfold containedPath at h
  dsimp only at h
  split at h
  · cases h
  · split at h
    · cases h
    · next nonempty =>
      obtain rfl := Except.ok.inj h
      have stands : ∀ name ∈ names (FilePath.ofString target).components,
          name ∈ (FilePath.ofString target).steps ∧ FileSystem.isUp name = false ∧
            component? name = some (.name name) := by
        intro name member
        rcases List.mem_filterMap.mp member with ⟨component, inside, named⟩
        cases component with
        | name octets => cases named; exact mem_steps_of_name inside
        | _ => cases named
      obtain ⟨steps, relative⟩ :=
        steps_ofNames fun name member => mem_steps (stands name member).1
      refine ⟨⟨relative, ?_⟩, ?_⟩
      · rw [steps]
        intro name member
        exact ⟨(stands name member).2.1, text_of_mem_steps (stands name member).1⟩
      · obtain ⟨name, member⟩ := List.exists_mem_of_ne_nil _ nonempty
        refine ⟨name, ?_⟩
        rw [components_eq, steps]
        exact List.mem_append_right _
          (List.mem_filterMap.mpr ⟨name, member, (stands name member).2.2⟩)

/-- A destination fails alike for all base directories, or it lies behind all of them at the same
place. -/
theorem resolve_cases (destination : Destination) (filename : String)
    (inside : ∀ directory, destination = .inDirectory directory → directory.Descends) :
    (∃ failure, ∀ base, destination.resolve base filename = .error failure) ∨
      ∃ tail : FilePath, tail.Lands ∧
        ∀ base, destination.resolve base filename = .ok (base.join tail) := by
  have ofMap (result : Except Failure FilePath)
      (resolves : ∀ base : FilePath, destination.resolve base filename = result.map base.join)
      (lands : ∀ tail, result = .ok tail → tail.Lands) :
      (∃ failure, ∀ base, destination.resolve base filename = .error failure) ∨
        ∃ tail : FilePath, tail.Lands ∧
          ∀ base, destination.resolve base filename = .ok (base.join tail) := by
    cases result with
    | error failure => exact .inl ⟨failure, resolves⟩
    | ok tail => exact .inr ⟨tail, lands tail rfl, resolves⟩
  cases destination with
  | ownName =>
    exact ofMap (clientFileName filename) (fun base => rfl) fun tail => lands_clientFileName
  | renamed name =>
    by_cases empty : name = ""
    · refine ofMap (clientFileName filename) (fun base => ?_) fun tail => lands_clientFileName
      rw [resolve, if_pos empty]
    · refine ofMap (containedPath name) (fun base => ?_) fun tail => lands_containedPath
      rw [resolve, if_neg empty]
  | inDirectory directory =>
    have goes := inside directory rfl
    cases named : clientFileName filename with
    | error failure => exact .inl ⟨failure, fun base => by rw [resolve, named]; rfl⟩
    | ok tail =>
      have lands := lands_clientFileName named
      refine .inr ⟨directory.join tail, goes.lands_join lands, fun base => ?_⟩
      rw [resolve, named, ← join_join base goes.relative lands.relative]
      simp only [Except.map, goes.relative, Bool.false_eq_true, if_false]

/-- The path of a destination leads down from the base directory, if a directory that it names
does. -/
theorem leadsDown_of_resolve {destination : Destination} {base path : FilePath} {filename : String}
    (inside : ∀ directory, destination = .inDirectory directory → directory.Descends)
    (h : destination.resolve base filename = .ok path) :
    ∃ down, down ≠ [] ∧ path.LeadsDown base down := by
  rcases destination.resolve_cases filename inside with ⟨failure, fails⟩ | ⟨tail, lands, lies⟩
  · rw [fails] at h
    cases h
  · rw [lies] at h
    cases h
    exact ⟨tail.steps, lands.steps_ne_nil, lands.leadsDown base⟩

end Destination

/-! ## Files beneath a directory -/

namespace FileSystem

variable {fs : FileSystem} {path base : FilePath} {dir home : Location} {name : Bytes}
  {down : List Bytes}

/-- A file that can be created at a path has the name that the path ends in. -/
theorem fileName_of_parent (h : fs.parent path = .ok (dir, name)) : path.fileName = some name := by
  rcases parent_eq_ok_iff.mp h with ⟨here, before, -, steps, -, notHere, notUp, -, -⟩
  have member : name ∈ path.steps := by
    rw [steps]
    exact List.mem_append_right _ (List.mem_singleton.mpr rfl)
  have last := FilePath.component?_name (FilePath.mem_steps member).1 notHere notUp
  rw [FilePath.fileName, FilePath.components_eq, steps, List.filterMap_append]
  simp [last]

/-- Where a path leads down, the name that it stands for is a text. -/
theorem text_of_parent (leads : path.LeadsDown base down) (nonempty : down ≠ [])
    (h : fs.parent path = .ok (dir, name)) : ∃ s : String, name = Bytes.ofString s := by
  rcases parent_eq_ok_iff.mp h with ⟨here, before, -, steps, -⟩
  obtain ⟨front, last, rfl⟩ : ∃ front last, down = front ++ [last] :=
    ⟨_, _, (List.dropLast_concat_getLast nonempty).symm⟩
  rw [leads.steps, ← List.append_assoc] at steps
  rcases List.append_inj' steps rfl with ⟨-, same⟩
  cases same
  exact (leads.down name (List.mem_append_right _ (List.mem_singleton.mpr rfl))).2

/-- Without links beneath a directory, a path that leads down from it stands for a name in a
directory beneath it. -/
theorem beneath_of_parent (leads : path.LeadsDown base down) (nonempty : down ≠ [])
    (free : fs.LinkFreeBeneath home) (there : fs.resolve base = .ok (home, .directory))
    (h : fs.parent path = .ok (dir, name)) : home <:+ dir := by
  rcases parent_eq_ok_iff.mp h with ⟨here, before, begun, steps, walked, -⟩
  have front : before = base.steps ++ down.dropLast := by
    rw [← List.dropLast_append_of_ne_nil nonempty, ← leads.steps, steps, List.dropLast_concat]
  unfold resolve at there
  cases start : fs.start base with
  | error fault => rw [start] at there; cases there
  | ok origin =>
    rw [start] at there
    rcases start_eq_ok_iff.mp start with ⟨⟨-, given, -⟩, same, -⟩
    rcases start_eq_ok_iff.mp begun with ⟨-, goes, -⟩
    have origins : here = origin := by rw [goes, same, (leads.start given).2]
    rcases walk_append there with ⟨left, behind⟩
    rw [front, origins, behind] at walked
    refine beneath_of_walk free (List.suffix_refl home) (fun step member => ?_) walked
    exact (leads.down step (List.dropLast_subset _ member)).1

end FileSystem

end Intake
