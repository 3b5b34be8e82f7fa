import Intake.Contest
import Mathlib.Data.List.Nodup

/-!
# Saves that run at the same time come to an end

A save takes at most four steps whatever the others do, so every schedule that gives each save
four turns ends with all saves done (`finished_of_turns`).
-/

namespace Intake

/-- What a save was asked to do. -/
def Save.task (s : Save) : Artifact × FilePath :=
  (s.artifact, s.path)

/-- How many steps a save may still take. -/
def Save.remaining (s : Save) : Nat :=
  match s.stage with
  | .checking => 4
  | .creating => 3
  | .writing _ => 2
  | .finishing _ => 1
  | .done _ => 0

/-- A step leaves a save with fewer steps, unless it is done. -/
theorem Save.remaining_step (fs : FileSystem) (s : Save) :
    (s.step fs).2.2.remaining ≤ s.remaining - 1 := by
  unfold step
  cases stage : s.stage with
  | checking =>
    dsimp only
    split <;> simp [remaining, stage]
  | creating =>
    dsimp only
    split <;> simp [remaining, stage]
  | writing place => simp [remaining, stage]
  | finishing place => simp [remaining, stage]
  | done result => simp [remaining, stage]

/-- A step changes nothing of a save but its stage. -/
theorem Save.step_eq (fs : FileSystem) (s : Save) :
    ∃ stage, (s.step fs).2.2 = { s with stage } := by
  unfold step
  cases s.stage with
  | checking =>
    dsimp only
    split <;> exact ⟨_, rfl⟩
  | creating =>
    dsimp only
    split <;> exact ⟨_, rfl⟩
  | writing place => exact ⟨_, rfl⟩
  | finishing place => exact ⟨_, rfl⟩
  | done result => exact ⟨s.stage, rfl⟩

/-- A save without steps to take is done. -/
theorem Save.isSome_result?_iff {s : Save} : s.result?.isSome ↔ s.remaining = 0 := by
  unfold result? remaining
  cases s.stage <;> simp

namespace Contest

/-- All saves are done. -/
def Finished (c : Contest) : Prop :=
  ∀ s ∈ c.saves, s.result?.isSome

/-- What a step does to the contest. -/
theorem step_of_save {c : Contest} {i : Nat} {s : Save} (h : c.saves[i]? = some s) :
    (c.step i).1 = ⟨(s.step c.fileSystem).1, c.saves.set i (s.step c.fileSystem).2.2⟩ := by
  unfold step
  rw [h]

theorem step_of_none {c : Contest} {i : Nat} (h : c.saves[i]? = none) : (c.step i).1 = c := by
  unfold step
  rw [h]

theorem length_step (c : Contest) (i : Nat) : (c.step i).1.saves.length = c.saves.length := by
  cases h : c.saves[i]? with
  | none => rw [step_of_none h]
  | some s => rw [step_of_save h, List.length_set]

/-- What holds of all saves, at whatever stage they are, still holds behind a step. -/
theorem forall_mem_step {p : Save → Prop} (any : ∀ s stage, p s → p { s with stage }) {c : Contest}
    (all : ∀ s ∈ c.saves, p s) (i : Nat) : ∀ s ∈ (c.step i).1.saves, p s := by
  intro t member
  cases found : c.saves[i]? with
  | none =>
    rw [step_of_none found] at member
    exact all t member
  | some s =>
    rw [step_of_save found] at member
    rcases List.mem_or_eq_of_mem_set member with old | rfl
    · exact all t old
    · obtain ⟨stage, same⟩ := s.step_eq c.fileSystem
      rw [same]
      exact any s stage (all s (List.mem_of_getElem? found))

theorem forall_mem_run {p : Save → Prop} (any : ∀ s stage, p s → p { s with stage }) {c : Contest}
    (all : ∀ s ∈ c.saves, p s) (schedule : List Nat) : ∀ s ∈ (c.run schedule).1.saves, p s := by
  induction schedule generalizing c with
  | nil => exact all
  | cons i schedule ih => exact ih (c := (c.step i).1) (forall_mem_step any all i)

theorem length_run (c : Contest) (schedule : List Nat) :
    (c.run schedule).1.saves.length = c.saves.length := by
  induction schedule generalizing c with
  | nil => rfl
  | cons i schedule ih => exact (ih (c.step i).1).trans (c.length_step i)

/-- Each turn of a save brings it nearer to its end, and the turns of others do not matter. -/
theorem remaining_step {c : Contest} {j : Nat} {t : Save} (i : Nat) (h : c.saves[j]? = some t) :
    ∃ next, (c.step i).1.saves[j]? = some next ∧
      next.remaining ≤ t.remaining - (if i = j then 1 else 0) := by
  cases found : c.saves[i]? with
  | none =>
    have other : i ≠ j := by
      rintro rfl
      rw [h] at found
      cases found
    rw [step_of_none found, if_neg other]
    exact ⟨t, h, Nat.le_refl _⟩
  | some s =>
    rw [step_of_save found]
    by_cases same : i = j
    · subst same
      rw [h] at found
      cases found
      rcases List.getElem?_eq_some_iff.mp h with ⟨inside, -⟩
      refine ⟨_, List.getElem?_set_self inside, ?_⟩
      rw [if_pos rfl]
      exact t.remaining_step c.fileSystem
    · rw [if_neg same]
      exact ⟨t, by rw [List.getElem?_set_ne same, h], Nat.le_refl _⟩

theorem remaining_run {c : Contest} {j : Nat} {t : Save} (schedule : List Nat)
    (h : c.saves[j]? = some t) :
    ∃ last, (c.run schedule).1.saves[j]? = some last ∧
      last.remaining ≤ t.remaining - schedule.count j := by
  induction schedule generalizing c t with
  | nil => exact ⟨t, h, Nat.le_refl _⟩
  | cons i schedule ih =>
    rcases remaining_step i h with ⟨next, found, fewer⟩
    rcases ih found with ⟨last, ended, le⟩
    refine ⟨last, ended, ?_⟩
    rw [List.count_cons]
    simp only [beq_iff_eq]
    omega

/-- A schedule that gives every save four turns ends with all saves done. -/
theorem finished_of_turns {c : Contest} {schedule : List Nat}
    (fresh : ∀ s ∈ c.saves, s.remaining ≤ Save.stepCount)
    (turns : ∀ i < c.saves.length, Save.stepCount ≤ schedule.count i) :
    (c.run schedule).1.Finished := by
  intro last member
  rcases List.mem_iff_getElem.mp member with ⟨i, inside, rfl⟩
  rw [length_run] at inside
  rcases remaining_run schedule (List.getElem?_eq_getElem inside) with ⟨ended, found, le⟩
  have enough := turns i inside
  have few := fresh _ (List.getElem_mem inside)
  have same : ended = (c.run schedule).1.saves[i] := by
    rw [List.getElem?_eq_getElem] at found
    exact (Option.some.inj found).symm
  rw [Save.isSome_result?_iff, ← same]
  omega

/-- A save of a contest that has not begun is one that has not begun. -/
theorem stage_of_mem_start {fs : FileSystem} {tasks : List (Artifact × FilePath)}
    {broken : Nat → Option BrokenWrite} {s : Save} (member : s ∈ (start fs tasks broken).saves) :
    s.stage = .checking ∧ s.task ∈ tasks ∧ ∃ i, s.broken = broken i := by
  obtain ⟨i, inside, rfl⟩ := List.mem_mapIdx.mp member
  exact ⟨rfl, List.getElem_mem inside, i, rfl⟩

theorem length_start (fs : FileSystem) (tasks : List (Artifact × FilePath))
    (broken : Nat → Option BrokenWrite) : (start fs tasks broken).saves.length = tasks.length :=
  List.length_mapIdx

theorem remaining_start {fs : FileSystem} {tasks : List (Artifact × FilePath)}
    {broken : Nat → Option BrokenWrite} :
    ∀ s ∈ (start fs tasks broken).saves, s.remaining ≤ Save.stepCount := by
  intro s member
  rw [Save.remaining, (stage_of_mem_start member).1]
  exact Nat.le_refl _

theorem count_turns {count i : Nat} (h : i < count) : (turns count).count i = Save.stepCount := by
  have once : (List.range count).count i = 1 :=
    List.count_eq_one_of_mem List.nodup_range (List.mem_range.mpr h)
  unfold turns
  rw [List.count_flatten, List.map_replicate, once]
  rfl

end Contest

end Intake
