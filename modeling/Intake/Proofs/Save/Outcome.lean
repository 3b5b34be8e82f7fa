import Intake.Proofs.FileSystem.Creation
import Intake.Save

/-!
# How a save ends

A save succeeds exactly when the exclusive create does and the write does not break off
(`persist_of_created`), and then it leaves the file system with one file more, which holds the
artifact (`persist_eq_ok`). However it fails, it leaves the file system as it was
(`persist_of_there`, `persist_of_refused`, `persist_of_broken`). A save that is dropped right after
its file was created leaves the file system as it was too (`cancel_fileSystem`): what its clean-up
removes is its own file.
-/

namespace Intake

/-! ## The two decisions -/

/-- How a save fails when the create is refused. -/
def refusal (path : FilePath) : IoFault → Failure
  | .alreadyExists => .destinationExists path
  | fault => .io path fault

variable {fs created : FileSystem} {artifact : Artifact} {path : FilePath} {place : Location}
  {fault : IoFault} {broken : Option BrokenWrite}

theorem checkDestination_of_there (there : fs.tryExists path = .ok true) :
    (checkDestination fs path).result = .error (.destinationExists path) := by
  unfold checkDestination
  rw [there]
  rfl

theorem checkDestination_of_absent (absent : fs.tryExists path ≠ .ok true) :
    (checkDestination fs path).result = .ok () := by
  unfold checkDestination
  split
  · next there => exact absurd there absent
  · rfl
  · rfl

theorem claimDestination_of_created (h : fs.createNew path = .ok (created, place)) :
    claimDestination fs path = (created, pure place) := by
  unfold claimDestination
  rw [h]

theorem claimDestination_of_refused (h : fs.createNew path = .error fault) :
    (claimDestination fs path).1 = fs ∧
      (claimDestination fs path).2.result = .error (refusal path fault) := by
  unfold claimDestination
  rw [h]
  cases fault <;> exact ⟨rfl, rfl⟩

/-! ## Whole saves -/

/-- A created file is empty. -/
theorem setContent_created (h : fs.createNew path = .ok (created, place)) :
    created.setContent place [] = created := by
  obtain ⟨dir, name, free, -, rfl, rfl⟩ := FileSystem.createNew_eq_ok_iff.mp h
  exact FileSystem.setContent_insert ..

/-- What is written again is as if nothing had been written before. -/
theorem setContent_setContent_created (h : fs.createNew path = .ok (created, place))
    (before content : Bytes) :
    (created.setContent place before).setContent place content =
      created.setContent place content := by
  obtain ⟨dir, name, free, -, rfl, rfl⟩ := FileSystem.createNew_eq_ok_iff.mp h
  rw [FileSystem.setContent_insert, FileSystem.setContent_insert, FileSystem.setContent_insert]

/-- The clean-up of a save removes the file that the save created, whatever was written to it. -/
theorem removePartial_of_created (h : fs.createNew path = .ok (created, place)) (written : Bytes) :
    (removePartial (created.setContent place written) path).1 = fs := by
  obtain ⟨dir, name, free, stands, rfl, rfl⟩ := FileSystem.createNew_eq_ok_iff.mp h
  rw [FileSystem.setContent_insert, removePartial, FileSystem.removeFile_insert free stands]

/-- A save whose destination is seen to exist fails and changes nothing. -/
theorem persist_of_there (there : fs.tryExists path = .ok true) :
    (persist fs artifact path broken).1 = fs ∧
      (persist fs artifact path broken).2.result = .error (.destinationExists path) := by
  unfold persist
  dsimp only
  rw [checkDestination_of_there there]
  exact ⟨rfl, rfl⟩

/-- A save whose create succeeds ends as its write does. -/
theorem persist_eq_conclude (artifact : Artifact) (broken : Option BrokenWrite)
    (h : fs.createNew path = .ok (created, place)) :
    (persist fs artifact path broken).1 =
        (conclude (created.setContent place (writtenBy broken artifact)) artifact path broken).1 ∧
      (persist fs artifact path broken).2.result =
        (conclude (created.setContent place (writtenBy broken artifact)) artifact path
          broken).2.result := by
  have absent : fs.tryExists path ≠ .ok true := by
    rw [FileSystem.tryExists_of_createNew h]
    simp
  unfold persist
  dsimp only
  rw [checkDestination_of_absent absent, claimDestination_of_created h]
  exact ⟨rfl, rfl⟩

/-- A save succeeds when the create does and the write does not break off. -/
theorem persist_of_created (h : fs.createNew path = .ok (created, place)) :
    (persist fs artifact path).1 = created.setContent place artifact.bytes ∧
      (persist fs artifact path).2.result = .ok () :=
  persist_eq_conclude artifact none h

/-- A save fails when its write breaks off, and changes nothing. -/
theorem persist_of_broken (h : fs.createNew path = .ok (created, place)) (write : BrokenWrite) :
    (persist fs artifact path (some write)).1 = fs ∧
      (persist fs artifact path (some write)).2.result = .error (.io path write.fault) := by
  obtain ⟨after, result⟩ := persist_eq_conclude artifact (some write) h
  exact ⟨after.trans (removePartial_of_created h write.written), result⟩

/-- A save fails when the create is refused, and changes nothing. -/
theorem persist_of_refused (absent : fs.tryExists path ≠ .ok true)
    (h : fs.createNew path = .error fault) :
    (persist fs artifact path broken).1 = fs ∧
      (persist fs artifact path broken).2.result = .error (refusal path fault) := by
  rcases claimDestination_of_refused h with ⟨same, result⟩
  unfold persist
  dsimp only
  rw [checkDestination_of_absent absent, result]
  exact ⟨same, rfl⟩

/-- A save that succeeds put a file with the artifact where its path stands for a free name. -/
theorem persist_eq_ok (h : (persist fs artifact path broken).2.result = .ok ()) :
    ∃ dir name free, fs.parent path = .ok (dir, name) ∧
      (persist fs artifact path broken).1 = fs.insert dir name (.file artifact.bytes) free := by
  cases create : fs.createNew path with
  | error fault =>
    by_cases there : fs.tryExists path = .ok true
    · rw [(persist_of_there there).2] at h
      cases h
    · rw [(persist_of_refused there create).2] at h
      cases h
  | ok made =>
    rcases made with ⟨created, place⟩
    cases broken with
    | some write =>
      rw [(persist_of_broken create write).2] at h
      cases h
    | none =>
      rcases FileSystem.createNew_eq_ok_iff.mp create with ⟨dir, name, free, stands, rfl, rfl⟩
      refine ⟨dir, name, free, stands, ?_⟩
      rw [(persist_of_created create).1, FileSystem.setContent_insert]

/-- A save that fails leaves the file system as it was. -/
theorem persist_eq_error {failure : Failure}
    (h : (persist fs artifact path broken).2.result = .error failure) :
    (persist fs artifact path broken).1 = fs := by
  by_cases there : fs.tryExists path = .ok true
  · exact (persist_of_there there).1
  · cases create : fs.createNew path with
    | error fault => exact (persist_of_refused there create).1
    | ok made =>
      cases broken with
      | some write => exact (persist_of_broken create write).1
      | none =>
        rw [(persist_of_created create).2] at h
        cases h

/-- The path of a save that succeeded leads to the artifact. -/
theorem resolve_persist (h : (persist fs artifact path broken).2.result = .ok ()) :
    ∃ place, (persist fs artifact path broken).1.resolve path =
      .ok (place, .file artifact.bytes) := by
  rcases persist_eq_ok h with ⟨dir, name, free, stands, same⟩
  refine ⟨name :: dir, ?_⟩
  rw [same]
  refine FileSystem.resolve_of_file ((fs.growsTo_insert dir name _ free).parent stands) ?_
  rw [FileSystem.find?_insert, if_pos rfl]

/-! ## Saves that are dropped -/

/-- Dropping a save right after it created its file takes that file away again, and a save that
ends without creating one changes nothing. -/
theorem cancel_fileSystem (fs : FileSystem) (artifact : Artifact) (path : FilePath) :
    (Save.cancel fs artifact path).1 = fs := by
  unfold Save.cancel
  simp only [Save.run, Save.step]
  by_cases there : fs.tryExists path = .ok true
  · rw [checkDestination_of_there there]
    rfl
  · rw [checkDestination_of_absent there]
    dsimp only
    cases create : fs.createNew path with
    | error fault =>
      rcases claimDestination_of_refused create with ⟨same, result⟩
      rw [result]
      exact same
    | ok made =>
      rcases made with ⟨created, place⟩
      rw [claimDestination_of_created create]
      rcases FileSystem.createNew_eq_ok_iff.mp create with ⟨dir, name, free, stands, rfl, rfl⟩
      simp only [Save.abandon, removePartial, pure,
        FileSystem.removeFile_insert free stands]

end Intake
