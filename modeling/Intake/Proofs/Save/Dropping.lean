import Intake.Proofs.Save.Outcome

/-!
# Saves that are dropped

A save can be dropped wherever it waits for the file system (`Save.Waits`). What it had begun
takes effect all the same: a create even if nobody learns of it, and a write before or after the
file that it goes to has been removed (`Save.Settles`).

* `Save.waits_run`: where a save that is not done waits.
* `Save.settles_cases`: a save that is dropped leaves the file system as it was, unless it waits
  for a create that succeeds. Then the file is left behind, and empty.
-/

namespace Intake.Save

variable {fs now last : FileSystem} {artifact : Artifact} {path : FilePath} {stage : SaveStage}
  {broken : Option BrokenWrite}

/-! ## Where a save waits -/

/-- A save that began in `fs` waits in `now`. While its file is written and finished, any octets
may be in it: the last ones are on their way until the file is finished. -/
inductive Waits (fs : FileSystem) (artifact : Artifact) (path : FilePath) :
    FileSystem → SaveStage → Prop
  | checking : Waits fs artifact path fs .checking
  | creating : Waits fs artifact path fs .creating
  | writing {created : FileSystem} {place : Location}
      (create : fs.createNew path = .ok (created, place)) (written : Bytes) :
    Waits fs artifact path (created.setContent place written) (.writing place)
  | finishing {created : FileSystem} {place : Location}
      (create : fs.createNew path = .ok (created, place)) (written : Bytes) :
    Waits fs artifact path (created.setContent place written) (.finishing place)

/-- A step ends a save, or takes it to where it waits again. -/
theorem waits_step (waits : Waits fs artifact path now stage) :
    (∃ result, (step now ⟨artifact, path, broken, stage⟩).2.2.stage = .done result) ∨
      ∃ next,
        (step now ⟨artifact, path, broken, stage⟩).2.2 = ⟨artifact, path, broken, next⟩ ∧
        Waits fs artifact path (step now ⟨artifact, path, broken, stage⟩).1 next := by
  cases waits with
  | checking =>
    by_cases there : fs.tryExists path = .ok true
    · refine .inl ⟨.error (.destinationExists path), ?_⟩
      simp only [step, checkDestination_of_there there]
    · refine .inr ⟨.creating, ?_, ?_⟩
      · simp only [step, checkDestination_of_absent there]
      · simp only [step, checkDestination_of_absent there]
        exact .creating
  | creating =>
    cases create : fs.createNew path with
    | error fault =>
      obtain ⟨-, refused⟩ := claimDestination_of_refused create
      refine .inl ⟨.error (refusal path fault), ?_⟩
      simp only [step, refused]
    | ok made =>
      obtain ⟨created, place⟩ := made
      refine .inr ⟨.writing place, ?_, ?_⟩
      · simp only [step, claimDestination_of_created create]
        rfl
      · have waits : Waits fs artifact path created (.writing place) :=
          setContent_created create ▸ .writing create []
        simp only [step, claimDestination_of_created create]
        exact waits
  | @writing created place create written =>
    refine .inr ⟨.finishing place, rfl, ?_⟩
    simp only [step, setContent_setContent_created create]
    exact .finishing create _
  | finishing create written => exact .inl ⟨_, rfl⟩

/-- Whatever steps a save has taken, it is done or waits. -/
theorem waits_run (waits : Waits fs artifact path now stage) (count : Nat) :
    (∃ result, (run count now ⟨artifact, path, broken, stage⟩).2.2.stage = .done result) ∨
      ∃ next,
        (run count now ⟨artifact, path, broken, stage⟩).2.2 = ⟨artifact, path, broken, next⟩ ∧
        Waits fs artifact path (run count now ⟨artifact, path, broken, stage⟩).1 next := by
  induction count generalizing now stage with
  | zero => exact .inr ⟨stage, rfl, waits⟩
  | succ count ih =>
    rw [run]
    dsimp only
    obtain ⟨result, ended⟩ | ⟨next, same, still⟩ := waits_step waits
    · rw [run_done count _ ended]
      exact .inl ⟨result, ended⟩
    · rw [same]
      exact ih still

/-! ## What is left of a dropped save -/

/-- A save that is dropped in `now` leaves `last` when all that it had begun has taken effect. A
write that is under way may come before the file is removed, or after. -/
inductive Settles (now : FileSystem) (s : Save) : FileSystem → Prop
  | inOrder : Settles now s (s.abandon now).1
  | lateWrite {place : Location} (writes : s.stage = .writing place ∨ s.stage = .finishing place)
      (written : Bytes) :
    Settles now s ((s.abandon now).1.setContent place written)

/-- A write that comes after the clean-up finds no file. -/
theorem setContent_late {created : FileSystem} {place : Location}
    (create : fs.createNew path = .ok (created, place)) (written : Bytes) :
    fs.setContent place written = fs := by
  obtain ⟨dir, name, free, -, rfl, -⟩ := FileSystem.createNew_eq_ok_iff.mp create
  exact FileSystem.setContent_of_free free.2 written

/-- Once its file was created, a save that is dropped leaves the file system as it was. -/
theorem settles_of_created {created : FileSystem} {place : Location} {written : Bytes}
    (create : fs.createNew path = .ok (created, place))
    (stage_ : stage = .writing place ∨ stage = .finishing place)
    (settles : Settles (created.setContent place written) ⟨artifact, path, broken, stage⟩ last) :
    last = fs := by
  have removed :
      (abandon (created.setContent place written) ⟨artifact, path, broken, stage⟩).1 = fs := by
    rcases stage_ with rfl | rfl
    · exact removePartial_of_created create written
    · exact removePartial_of_created create written
  cases settles with
  | inOrder => exact removed
  | @lateWrite other writes late =>
    obtain rfl : place = other := by
      rcases stage_ with rfl | rfl
      · simpa using writes
      · simpa using writes
    rw [removed]
    exact setContent_late create late

/-- A save that is dropped leaves the file system as it was, unless it waits for a create that
succeeds. Then the file is left behind, and empty. -/
theorem settles_cases (waits : Waits fs artifact path now stage)
    (settles : Settles now ⟨artifact, path, broken, stage⟩ last) :
    (stage = .creating ∧ ∃ place, fs.createNew path = .ok (last, place) ∧
        fs.Gains last place []) ∨
      (stage = .creating → ∀ made, fs.createNew path ≠ .ok made) ∧ last = fs := by
  cases waits with
  | checking =>
    refine .inr ⟨by rintro ⟨⟩, ?_⟩
    cases settles with
    | inOrder => rfl
    | lateWrite writes => simp at writes
  | creating =>
    cases settles with
    | lateWrite writes => simp at writes
    | inOrder =>
      rw [abandon]
      cases create : fs.createNew path with
      | error fault =>
        refine .inr ⟨?_, (claimDestination_of_refused create).1⟩
        intro _ made created
        cases created
      | ok made =>
        obtain ⟨created, place⟩ := made
        rw [claimDestination_of_created create]
        obtain ⟨dir, name, free, -, rfl, rfl⟩ := FileSystem.createNew_eq_ok_iff.mp create
        exact .inl ⟨rfl, _, rfl, fs.gains_insert dir name [] free⟩
  | writing create written =>
    exact .inr ⟨by rintro ⟨⟩, settles_of_created create (.inl rfl) settles⟩
  | finishing create written =>
    exact .inr ⟨by rintro ⟨⟩, settles_of_created create (.inr rfl) settles⟩

/-- A write that was under way when the save was dropped does not bring the file back. -/
theorem settles_cases_late_write :
    ∃ created place, FileSystem.empty.createNew ⟨[0x2F, 0x78]⟩ = .ok (created, place) ∧
      ((abandon (created.setContent place [1])
        ⟨⟨[1, 2], "x", ""⟩, ⟨[0x2F, 0x78]⟩, none, .writing place⟩).1.setContent place [1, 2]) =
        .empty := by
  obtain ⟨created, place, create⟩ : ∃ created place,
      FileSystem.empty.createNew ⟨[0x2F, 0x78]⟩ = .ok (created, place) :=
    ⟨_, _, FileSystem.createNew_of_single rfl rfl ⟨rfl, rfl⟩ rfl (by decide) rfl⟩
  have settles : Settles (created.setContent place [1])
      ⟨⟨[1, 2], "x", ""⟩, ⟨[0x2F, 0x78]⟩, none, .writing place⟩ _ := .lateWrite (.inl rfl) [1, 2]
  obtain ⟨other, -⟩ | ⟨-, same⟩ := settles_cases (.writing create [1]) settles
  · cases other
  · exact ⟨created, place, create, same⟩

/-- A save that is dropped while it waits for the create leaves an empty file behind. -/
theorem settles_leaves_file :
    ∃ last, Settles (run 1 .empty ⟨⟨[1], "x", ""⟩, ⟨[0x2F, 0x78]⟩, none, .checking⟩).1
        (run 1 .empty ⟨⟨[1], "x", ""⟩, ⟨[0x2F, 0x78]⟩, none, .checking⟩).2.2 last ∧
      FileSystem.empty.find? [[0x78]] = none ∧ last.find? [[0x78]] = some (.file []) := by
  have create : FileSystem.empty.createNew ⟨[0x2F, 0x78]⟩ = .ok (_, [[0x78]]) :=
    FileSystem.createNew_of_single rfl rfl ⟨rfl, rfl⟩ rfl (by decide) rfl
  have absent : FileSystem.empty.tryExists ⟨[0x2F, 0x78]⟩ ≠ .ok true := by
    rw [FileSystem.tryExists_of_createNew create]
    simp
  refine ⟨_, .inOrder, rfl, ?_⟩
  simp only [run, step, checkDestination_of_absent absent, abandon,
    claimDestination_of_created create]
  exact (FileSystem.find?_insert ..).trans (if_pos rfl)

end Intake.Save
