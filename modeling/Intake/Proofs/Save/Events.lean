import Intake.Proofs.Save.Outcome

/-!
# What saves tell

A save by itself never tells that an upload could not be saved, which is left to the one who saves
it. `persist_cases` says what it does tell: a save fails and leaves the file system as it was,
whether it is refused or its write breaks off; or it creates and writes its file, and tells so at
the end with no more than remarks before.
-/

namespace Intake

/-- No event tells that an upload could not be saved. -/
def Untold (events : List Event) : Prop :=
  ∀ event ∈ events, event.message ≠ "Failed to save upload"

variable {events more : List Event}

theorem Untold.append (first : Untold events) (second : Untold more) : Untold (events ++ more) :=
  List.forall_mem_append.mpr ⟨first, second⟩

theorem untold_single {event : Event} (other : event.message ≠ "Failed to save upload") :
    Untold [event] :=
  List.forall_mem_singleton.mpr other

/-! ## The steps -/

/-- The check finds something and fails, or passes with no more than a remark. -/
theorem checkDestination_cases (fs : FileSystem) (path : FilePath) :
    (∃ events, checkDestination fs path = ⟨events, .error (.destinationExists path)⟩ ∧
      Untold events) ∨
    ∃ events, checkDestination fs path = ⟨events, .ok ()⟩ ∧ Untold events ∧
      ∀ event ∈ events, event.level = .debug := by
  unfold checkDestination
  split
  · exact .inl ⟨_, rfl, untold_single (by simp)⟩
  · exact .inr ⟨_, rfl, List.forall_mem_nil _, List.forall_mem_nil _⟩
  · exact .inr ⟨_, rfl, untold_single (by simp), List.forall_mem_singleton.mpr rfl⟩

/-- The create is refused, or the file is there and nothing is told of it. -/
theorem claimDestination_cases (fs : FileSystem) (path : FilePath) :
    (∃ failure events, claimDestination fs path = (fs, ⟨events, .error failure⟩) ∧
      Untold events) ∨
    ∃ created place, fs.createNew path = .ok (created, place) ∧
      claimDestination fs path = (created, ⟨[], .ok place⟩) := by
  unfold claimDestination
  split
  · next created place made => exact .inr ⟨created, place, made, rfl⟩
  · exact .inl ⟨_, _, rfl, untold_single (by simp)⟩
  · exact .inl ⟨_, _, rfl, untold_single (by simp)⟩

theorem untold_removePartial (fs : FileSystem) (path : FilePath) :
    Untold (removePartial fs path).2 := by
  unfold removePartial
  split
  · exact untold_single (by simp)
  · exact Untold.append (untold_single (by simp)) (untold_single (by simp))

/-! ## Whole saves -/

/-- A save fails and leaves the file system as it was, or it succeeds and tells at the end that it
is done. -/
theorem persist_cases (fs : FileSystem) (artifact : Artifact) (path : FilePath)
    (broken : Option BrokenWrite) :
    (∃ failure events, persist fs artifact path broken = (fs, ⟨events, .error failure⟩) ∧
      Untold events) ∨
    ∃ last events, persist fs artifact path broken =
        (last, ⟨events ++ [savedEvent artifact path], .ok ()⟩) ∧
      ∀ event ∈ events, event.level = .debug := by
  unfold persist
  dsimp only
  obtain ⟨checks, check, untold⟩ | ⟨checks, check, untold, debug⟩ := checkDestination_cases fs path
  · rw [check]
    exact .inl ⟨_, checks, rfl, untold⟩
  rw [check]
  dsimp only
  obtain ⟨failure, refusals, claim, silent⟩ | ⟨created, place, create, claim⟩ :=
    claimDestination_cases fs path
  · rw [claim]
    exact .inl ⟨failure, checks ++ refusals, rfl, untold.append silent⟩
  rw [claim]
  dsimp only
  rw [List.append_nil]
  cases broken with
  | none => exact .inr ⟨_, checks, rfl, debug⟩
  | some write =>
    rw [conclude, writtenBy, Option.map_some, Option.getD_some]
    dsimp only
    rw [removePartial_of_created create]
    have event : Untold [brokenWriteEvent path write.fault] :=
      untold_single (by simp [brokenWriteEvent])
    exact .inl ⟨_, _, rfl, untold.append (event.append (untold_removePartial _ path))⟩

end Intake
