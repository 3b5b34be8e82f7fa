import Intake.Proofs.FileSystem.Standing
import Intake.Proofs.Save.Outcome

/-!
# Saves as exclusive creates

Where a save looks for its destination before it creates it, it follows links and takes no notice
of what it cannot look at; the create follows no last link and decides. At a path that a destination
was resolved to the two agree as far as they speak of the same thing: what the check sees, the
create finds taken (`occupied_of_tryExists`). So the check makes no difference
(`persist_eq_persistUnchecked`), and how a save ends is told by the name that its path stands for:
whether that is free or taken, if the path can be passed on, or cannot be looked up
(`persist_exclusive`). A path that is too long to be passed on is not looked up, so a save to it
does not find the name taken, although it may be (`persist_overlong`).
-/

namespace Intake

open FilePath

/-! ## Saves without a check -/

/-- Saves an artifact to a path without looking first whether anything is there. -/
def persistUnchecked (fs : FileSystem) (artifact : Artifact) (path : FilePath)
    (broken : Option BrokenWrite := none) : FileSystem × Traced Unit :=
  let (created, claimed) := claimDestination fs path
  match claimed.result with
  | .error failure => (created, ⟨claimed.events, .error failure⟩)
  | .ok place =>
    let (last, concluded) :=
      conclude (created.setContent place (writtenBy broken artifact)) artifact path broken
    (last, ⟨claimed.events ++ concluded.events, concluded.result⟩)

/-- A save is one without a check behind the check. -/
theorem persist_eq (fs : FileSystem) (artifact : Artifact) (path : FilePath)
    (broken : Option BrokenWrite) :
    persist fs artifact path broken =
      match (checkDestination fs path).result with
      | .error failure => (fs, ⟨(checkDestination fs path).events, .error failure⟩)
      | .ok () =>
        ((persistUnchecked fs artifact path broken).1,
          ⟨(checkDestination fs path).events ++
              (persistUnchecked fs artifact path broken).2.events,
            (persistUnchecked fs artifact path broken).2.result⟩) := by
  unfold persist persistUnchecked
  dsimp only
  cases (checkDestination fs path).result with
  | error failure => rfl
  | ok seen =>
    dsimp only
    cases (claimDestination fs path).2.result with
    | error failure => rfl
    | ok place => simp only [List.append_assoc]

variable {fs created : FileSystem} {artifact : Artifact} {path : FilePath} {place : Location}
  {fault : IoFault} {broken : Option BrokenWrite}

theorem persistUnchecked_of_created (h : fs.createNew path = .ok (created, place)) :
    (persistUnchecked fs artifact path).1 = created.setContent place artifact.bytes ∧
      (persistUnchecked fs artifact path).2.result = .ok () := by
  unfold persistUnchecked
  rw [claimDestination_of_created h]
  exact ⟨rfl, rfl⟩

theorem persistUnchecked_of_refused (h : fs.createNew path = .error fault) :
    (persistUnchecked fs artifact path broken).1 = fs ∧
      (persistUnchecked fs artifact path broken).2.result = .error (refusal path fault) := by
  obtain ⟨same, result⟩ := claimDestination_of_refused h
  unfold persistUnchecked
  dsimp only
  rw [result]
  exact ⟨same, rfl⟩

/-! ## What the check decides -/

variable {dir : FilePath} {name : Bytes}

theorem createNew_of_occupied (named : IsName name) (taken : fs.Occupied (dir.join ⟨name⟩)) :
    fs.createNew (dir.join ⟨name⟩) = .error .alreadyExists := by
  rcases fs.createNew_join_cases named dir with ⟨free, -⟩ | ⟨-, refused⟩ | ⟨-, untaken, -⟩
  · exact absurd taken (FileSystem.not_occupied_of_vacant free)
  · exact refused
  · exact absurd taken untaken

/-- The check makes no difference: what it sees, the create finds taken. -/
theorem persist_eq_persistUnchecked (fs : FileSystem) (artifact : Artifact) (named : IsName name)
    (dir : FilePath) (broken : Option BrokenWrite) :
    (persist fs artifact (dir.join ⟨name⟩) broken).1 =
        (persistUnchecked fs artifact (dir.join ⟨name⟩) broken).1 ∧
      (persist fs artifact (dir.join ⟨name⟩) broken).2.result =
        (persistUnchecked fs artifact (dir.join ⟨name⟩) broken).2.result := by
  by_cases there : fs.tryExists (dir.join ⟨name⟩) = .ok true
  · have refused := createNew_of_occupied named (FileSystem.occupied_of_tryExists named there)
    obtain ⟨same, result⟩ := persist_of_there there
    obtain ⟨sameUnchecked, resultUnchecked⟩ :=
      persistUnchecked_of_refused refused
    rw [same, sameUnchecked, result, resultUnchecked]
    exact ⟨rfl, rfl⟩
  · rw [persist_eq, checkDestination_of_absent there]
    exact ⟨rfl, rfl⟩

/-! ## How saves end -/

theorem refusal_eq_io (other : fault ≠ .alreadyExists) : refusal path fault = .io path fault := by
  cases fault with
  | alreadyExists => exact absurd rfl other
  | _ => rfl

/-- How a save ends that does not look first is told by the name that its path stands for. -/
theorem persistUnchecked_cases (fs : FileSystem) (artifact : Artifact) (named : IsName name)
    (dir : FilePath) :
    (fs.Vacant (dir.join ⟨name⟩) ∧
      (persistUnchecked fs artifact (dir.join ⟨name⟩)).2.result = .ok () ∧
      ∃ place, fs.StandsFor (dir.join ⟨name⟩) place name ∧
        fs.Gains (persistUnchecked fs artifact (dir.join ⟨name⟩)).1 (name :: place)
          artifact.bytes) ∨
    (fs.Occupied (dir.join ⟨name⟩) ∧
      (persistUnchecked fs artifact (dir.join ⟨name⟩)).2.result =
        .error (.destinationExists (dir.join ⟨name⟩)) ∧
      (persistUnchecked fs artifact (dir.join ⟨name⟩)).1 = fs) ∨
    (¬ fs.Vacant (dir.join ⟨name⟩) ∧ ¬ fs.Occupied (dir.join ⟨name⟩) ∧
      (∃ fault, (persistUnchecked fs artifact (dir.join ⟨name⟩)).2.result =
        .error (.io (dir.join ⟨name⟩) fault)) ∧
      (persistUnchecked fs artifact (dir.join ⟨name⟩)).1 = fs) := by
  rcases fs.createNew_join_cases named dir with
    ⟨vacant, place, free, stands, made⟩ | ⟨taken, refused⟩ |
      ⟨notVacant, untaken, fault, other, refused⟩
  · obtain ⟨filled, result⟩ := persistUnchecked_of_created made
    refine .inl ⟨vacant, result, place, stands, ?_⟩
    rw [filled, FileSystem.setContent_insert]
    exact fs.gains_insert place name artifact.bytes free
  · obtain ⟨same, result⟩ := persistUnchecked_of_refused refused
    exact .inr (.inl ⟨taken, result, same⟩)
  · obtain ⟨same, result⟩ := persistUnchecked_of_refused refused
    rw [refusal_eq_io other] at result
    exact .inr (.inr ⟨notVacant, untaken, ⟨fault, result⟩, same⟩)

/-- A save to the path of a destination does what it would do without looking there first, even
where its write breaks off. Where it does not, the save ends in one of three ways. If the path can
be passed on and stands for a free name, the save succeeds and adds just a file with the artifact;
if it can be passed on and stands for a name that is taken, by whatever it may be, the save fails
because the destination exists; else it fails on input or output. Where it fails, it changes
nothing. -/
theorem persist_exclusive (fs : FileSystem) (artifact : Artifact) {destination : Destination}
    {base path : FilePath} {filename : String}
    (located : destination.resolve base filename = .ok path) :
    (∀ broken,
      (persist fs artifact path broken).1 = (persistUnchecked fs artifact path broken).1 ∧
        (persist fs artifact path broken).2.result =
          (persistUnchecked fs artifact path broken).2.result) ∧
    ((fs.Vacant path ∧ ¬ fs.Occupied path ∧ (persist fs artifact path).2.result = .ok () ∧
        ∃ place name, fs.StandsFor path place name ∧
          fs.Gains (persist fs artifact path).1 (name :: place) artifact.bytes) ∨
      (fs.Occupied path ∧ ¬ fs.Vacant path ∧
        (persist fs artifact path).2.result = .error (.destinationExists path) ∧
        (persist fs artifact path).1 = fs) ∨
      (¬ fs.Vacant path ∧ ¬ fs.Occupied path ∧
        (∃ fault, (persist fs artifact path).2.result = .error (.io path fault)) ∧
        (persist fs artifact path).1 = fs)) := by
  obtain ⟨dir, name, named, lies⟩ := Destination.exists_join_of_resolve located
  subst lies
  have unchecked := persist_eq_persistUnchecked fs artifact named dir
  refine ⟨unchecked, ?_⟩
  obtain ⟨same, result⟩ := unchecked none
  rw [same, result]
  rcases persistUnchecked_cases fs artifact named dir with
    ⟨vacant, saved, place, stands, gains⟩ | ⟨taken, failed, kept⟩ | unreached
  · exact .inl ⟨vacant, FileSystem.not_occupied_of_vacant vacant, saved, place, name, stands, gains⟩
  · have notVacant := fun vacant => FileSystem.not_occupied_of_vacant vacant taken
    exact .inr (.inl ⟨taken, notVacant, failed, kept⟩)
  · exact .inr (.inr unreached)

/-- A root with one entry, called `x`. -/
def rootWith (entry : Entry) : FileSystem :=
  FileSystem.empty.insert [] [0x78] entry ⟨rfl, rfl⟩

/-- A link that leads nowhere takes its name: looking for the destination finds nothing, and the
save fails all the same because it exists. -/
theorem persist_exclusive_dangling :
    Destination.ownName.resolve (.ofString "/") "x" = .ok (.ofString "/x") ∧
      (rootWith (.link (.ofString "y"))).tryExists (.ofString "/x") = .ok false ∧
      (persist (rootWith (.link (.ofString "y"))) ⟨[1], "x", ""⟩ (.ofString "/x")).2.result =
        .error (.destinationExists (.ofString "/x")) ∧
      (persist (rootWith (.link (.ofString "y"))) ⟨[1], "x", ""⟩ (.ofString "/x")).1 =
        rootWith (.link (.ofString "y")) := by
  have located : Destination.ownName.resolve (.ofString "/") "x" = .ok (.ofString "/x") := by rfl
  have leads : (rootWith (.link (.ofString "y"))).resolve (FilePath.ofString "/x").directory =
      .ok ([], .directory) :=
    FileSystem.resolve_slashes _ Nat.one_ne_zero (by decide)
  have nowhere : (rootWith (.link (.ofString "y"))).tryExists (.ofString "/x") = .ok false := by
    have begun : (rootWith (.link (.ofString "y"))).start (.ofString "/x") = .ok [] := by decide
    have steps : (FilePath.ofString "/x").steps = [[0x78]] := by decide
    have target : (FilePath.ofString "y").steps = [[0x79]] := by decide
    have absolute : (FilePath.ofString "y").isAbsolute = false := by decide
    have there : (rootWith (.link (.ofString "y"))).find? [[0x78]] =
        some (.link (.ofString "y")) := by rfl
    have free : (rootWith (.link (.ofString "y"))).find? [[0x79]] = none := by rfl
    simp [FileSystem.tryExists, FileSystem.resolve, begun, steps, FileSystem.walk, there, target,
      free, FileSystem.isHere, FileSystem.isUp, FileSystem.maxName, FileSystem.maxLinks, absolute,
      Bytes.dot]
  have taken : (rootWith (.link (.ofString "y"))).Occupied (.ofString "/x") :=
    ⟨[], [0x78], ⟨leads, by decide⟩, ⟨by decide, by decide, by decide⟩, _, rfl⟩
  obtain ⟨-, ⟨-, untaken, -⟩ | ⟨-, -, failed⟩ | ⟨-, untaken, -⟩⟩ :=
    persist_exclusive (rootWith (.link (.ofString "y"))) ⟨[1], "x", ""⟩ located
  · exact absurd taken untaken
  · exact ⟨located, nowhere, failed⟩
  · exact absurd taken untaken

/-- The root, spelled with as many slashes as a path can have octets. -/
def slashes : FilePath :=
  ⟨List.replicate FileSystem.maxPath Bytes.slash⟩

/-- At a path that is too long to be passed on a save fails on input or output, although the path
of its directory is not too long and the name is taken there. -/
theorem persist_overlong :
    Destination.ownName.resolve slashes "x" = .ok (slashes.join ⟨[0x78]⟩) ∧
      (rootWith (.file [])).StandsFor (slashes.join ⟨[0x78]⟩) [] [0x78] ∧
      (rootWith (.file [])).find? [[0x78]] = some (.file []) ∧
      (persist (rootWith (.file [])) ⟨[1], "x", ""⟩ (slashes.join ⟨[0x78]⟩)).2.result =
        .error (.io (slashes.join ⟨[0x78]⟩) .nameTooLong) := by
  have named : IsName [0x78] := ⟨by decide, by decide⟩
  have nonempty : slashes.octets ≠ [] := by
    rw [slashes]
    exact List.cons_ne_nil _ _
  have closed : slashes.octets.getLast? = some Bytes.slash := by
    rw [slashes, List.getLast?_replicate]
    rfl
  have joined : slashes.join ⟨[0x78]⟩ = ⟨slashes.octets ++ [0x78]⟩ := by
    rw [join, if_neg (by decide), if_pos (.inr closed)]
  have directory : (slashes.join ⟨[0x78]⟩).directory = slashes := by
    rw [joined, FilePath.directory, rdropWhile_append_name named.plain (.inr closed)]
    exact if_neg nonempty
  -- One octet more than a path can have: it is refused before anything is looked up.
  have refused : (rootWith (.file [])).createNew (slashes.join ⟨[0x78]⟩) = .error .nameTooLong := by
    have plain : (slashes.octets ++ [0x78]).contains 0 = false := by
      rw [Bool.eq_false_iff, ne_eq, List.contains_iff_mem, List.mem_append, not_or]
      exact ⟨fun nul => absurd (List.eq_of_mem_replicate nul) (by decide), by decide⟩
    have long : FileSystem.maxPath < (slashes.octets ++ [0x78]).length := by
      rw [List.length_append, slashes, List.length_replicate]
      decide
    have begun : (rootWith (.file [])).start (slashes.join ⟨[0x78]⟩) = .error .nameTooLong := by
      rw [joined, FileSystem.start, plain, if_neg Bool.false_ne_true,
        if_neg (List.append_ne_nil_of_left_ne_nil nonempty _), if_pos long]
    rw [FileSystem.createNew, FileSystem.parent, begun]
  have unseen : (rootWith (.file [])).tryExists (slashes.join ⟨[0x78]⟩) ≠ .ok true := by
    intro there
    rw [createNew_of_occupied named (FileSystem.occupied_of_tryExists named there)] at refused
    cases refused
  refine ⟨Destination.resolve_ownName_eq_ok_iff.mpr ⟨named, rfl⟩,
    ⟨?_, FileSystem.fileName_join_name named slashes⟩, rfl, ?_⟩
  · rw [directory]
    exact FileSystem.resolve_slashes _ (by decide) (Nat.le_refl _)
  · exact (persist_of_refused unseen refused).2

end Intake
