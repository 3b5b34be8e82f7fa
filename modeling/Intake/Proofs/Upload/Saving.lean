import Intake.Proofs.Contest.Rivals
import Intake.Upload.Saving

/-!
# What saves store

`Stores` follows a file system through the files that are put into it, each with the path that
it was saved to. Whatever was stored is found again at the end, under its own path and at a
place of its own (`Stores.places`), and all else is as it was.

* `stores_saveTo`: a save stores the artifact to the path that it tells, and nothing when it
  fails, even where its write breaks off.
* `stores_raceBy`: of saves that run at the same time, in any order in which all come to their
  end, just those store the artifact that tell so, whichever writes break off.
* `cancelSave_fileSystem`: a save that is dropped stores nothing.
-/

namespace Intake

namespace FileSystem

/-- `last` comes from `fs` by files that were put, one after another, where the paths that are
listed stood for a free name. -/
inductive Stores : FileSystem → List (FilePath × Bytes) → FileSystem → Prop
  | nothing (fs : FileSystem) : Stores fs [] fs
  | file {fs last : FileSystem} {path : FilePath} {dir : Location} {name content : Bytes}
      {stored : List (FilePath × Bytes)} (stands : fs.parent path = .ok (dir, name))
      (free : fs.find? dir = some .directory ∧ fs.find? (name :: dir) = none)
      (rest : Stores (fs.insert dir name (.file content) free) stored last) :
      Stores fs ((path, content) :: stored) last

namespace Stores

variable {fs middle last : FileSystem} {stored more : List (FilePath × Bytes)}

theorem append (first : fs.Stores stored middle) (second : middle.Stores more last) :
    fs.Stores (stored ++ more) last := by
  induction first with
  | nothing => exact second
  | file stands free _ ih => exact .file stands free (ih second)

theorem growsTo (stores : fs.Stores stored last) : fs.GrowsTo last := by
  induction stores with
  | nothing fs => exact .refl fs
  | @file fs _ _ dir name content _ _ free _ ih =>
    exact (fs.growsTo_insert dir name (.file content) free).trans ih

/-- Nothing stored leaves the file system as it was. -/
theorem eq_of_nil (stores : fs.Stores [] last) : last = fs := by
  cases stores
  rfl

/-- What was stored lies at as many places as were stored to, each free before. The path that
was stored to leads there, and nothing changed at any other place. -/
theorem places (stores : fs.Stores stored last) :
    ∃ places : List Location,
      List.Forall₂ (fun (file : FilePath × Bytes) place =>
        fs.find? place = none ∧ last.find? place = some (.file file.2) ∧
          last.resolve file.1 = .ok (place, .file file.2)) stored places ∧
      places.Nodup ∧
      ∀ place, place ∉ places → last.find? place = fs.find? place := by
  induction stores with
  | nothing => exact ⟨[], .nil, List.nodup_nil, fun _ _ => rfl⟩
  | @file fs last path dir name content stored stands free rest ih =>
    rcases ih with ⟨places, found, distinct, others⟩
    have grown := fs.growsTo_insert dir name (.file content) free
    have put : (fs.insert dir name (.file content) free).find? (name :: dir) =
        some (.file content) := by rw [find?_insert, if_pos rfl]
    have kept := rest.growsTo.keeps _ _ put
    have leads := resolve_of_file (rest.growsTo.parent (grown.parent stands)) kept
    -- What is stored later lies at places that are free even now, so not where this file is.
    have apart : ∀ place ∈ places,
        (fs.insert dir name (.file content) free).find? place = none := by
      intro place member
      rcases List.mem_iff_getElem.mp member with ⟨i, inside, rfl⟩
      exact (found.get (found.length_eq ▸ inside) inside).1
    have fresh : name :: dir ∉ places := by
      intro member
      rw [apart _ member] at put
      cases put
    have before (place : Location) (differs : place ≠ name :: dir) :
        (fs.insert dir name (.file content) free).find? place = fs.find? place := by
      rw [find?_insert, if_neg differs]
    refine ⟨(name :: dir) :: places, .cons ⟨free.2, kept, leads⟩ ?_,
      List.nodup_cons.mpr ⟨fresh, distinct⟩, ?_⟩
    · refine found.imp fun file place held => ⟨?_, held.2⟩
      by_cases same : place = name :: dir
      · rw [same]
        exact free.2
      · rw [← before place same]
        exact held.1
    · intro place outside
      simp only [List.mem_cons, not_or] at outside
      rw [others place outside.2, before place outside.1]

end Stores

end FileSystem

namespace Upload

/-- The path of a result that tells one, with the octets that were saved to it. -/
def stored (u : Upload) (result : Except Failure FilePath) : List (FilePath × Bytes) :=
  result.toOption.toList.map fun path => (path, u.artifact.bytes)

/-- A whole save stores the artifact if it succeeds, and else nothing. -/
theorem stores_persist (u : Upload) (fs : FileSystem) (path : FilePath)
    (broken : Option BrokenWrite) :
    fs.Stores (u.stored ((persist fs u.artifact path broken).2.result.map fun () => path))
      (persist fs u.artifact path broken).1 := by
  cases ended : (persist fs u.artifact path broken).2.result with
  | error failure =>
    rw [persist_eq_error ended]
    exact .nothing fs
  | ok done =>
    rcases persist_eq_ok ended with ⟨dir, name, free, stands, same⟩
    rw [same]
    exact .file stands free (.nothing _)

/-- A save goes as its artifact is saved to the path at which its destination lies. -/
theorem saveTo_of_located {u : Upload} (fs : FileSystem) {destination : Destination}
    {path : FilePath} (located : u.locate destination = .ok path) (broken : Option BrokenWrite) :
    (u.saveTo fs destination broken).1 = (persist fs u.artifact path broken).1 ∧
      (u.saveTo fs destination broken).2.result =
        (persist fs u.artifact path broken).2.result.map fun _ => path := by
  unfold saveTo
  rw [located]
  refine ⟨rfl, ?_⟩
  dsimp only [Traced.noting]
  cases ended : (persist fs u.artifact path broken).2.result with
  | error failure => rw [Traced.bind_of_error ended]; rfl
  | ok done => rw [Traced.bind_of_ok ended]; rfl

/-- A save that tells a path put the artifact where that path, at which its destination lies,
stood for a free name. -/
theorem saveTo_eq_ok {u : Upload} {fs : FileSystem} {destination : Destination} {path : FilePath}
    {broken : Option BrokenWrite}
    (saved : (u.saveTo fs destination broken).2.result = .ok path) :
    u.locate destination = .ok path ∧ ∃ dir name free, fs.parent path = .ok (dir, name) ∧
      (u.saveTo fs destination broken).1 = fs.insert dir name (.file u.artifact.bytes) free := by
  cases located : u.locate destination with
  | error failure => rw [saveTo, located] at saved; cases saved
  | ok found =>
    obtain ⟨after, result⟩ := saveTo_of_located fs located broken
    rw [result] at saved
    cases ended : (persist fs u.artifact found broken).2.result with
    | error failure => rw [ended] at saved; cases saved
    | ok done =>
      rw [ended] at saved
      cases saved
      rw [after]
      exact ⟨rfl, persist_eq_ok ended⟩

/-- A save that fails leaves the file system as it was. -/
theorem saveTo_eq_error {u : Upload} {fs : FileSystem} {destination : Destination}
    {broken : Option BrokenWrite} {failure : Failure}
    (failed : (u.saveTo fs destination broken).2.result = .error failure) :
    (u.saveTo fs destination broken).1 = fs := by
  cases located : u.locate destination with
  | error failure => rw [saveTo, located]
  | ok found =>
    obtain ⟨after, result⟩ := saveTo_of_located fs located broken
    rw [result] at failed
    cases ended : (persist fs u.artifact found broken).2.result with
    | error failure => rw [after, persist_eq_error ended]
    | ok done => rw [ended] at failed; cases failed

/-- A save stores the artifact to the path that it tells, and nothing when it fails. -/
theorem stores_saveTo (u : Upload) (fs : FileSystem) (destination : Destination)
    (broken : Option BrokenWrite) :
    fs.Stores (u.stored (u.saveTo fs destination broken).2.result)
      (u.saveTo fs destination broken).1 := by
  cases ended : (u.saveTo fs destination broken).2.result with
  | error failure =>
    rw [saveTo_eq_error ended]
    exact .nothing fs
  | ok path =>
    rcases saveTo_eq_ok ended with ⟨-, dir, name, free, stands, same⟩
    rw [same]
    exact .file stands free (.nothing _)

/-! ## Saves that run at the same time -/

/-- No result that is a failure tells of an artifact that was stored. -/
theorem stored_replicate_error (u : Upload) (failure : Failure) (count : Nat) :
    (List.replicate count (.error failure)).flatMap u.stored = [] := by
  refine List.flatMap_eq_nil_iff.mpr fun result member => ?_
  rw [List.eq_of_mem_replicate member]
  rfl

/-- What is stored is told by the results that are successes. -/
theorem flatMap_stored (u : Upload) (path : FilePath) (outcomes : List (Except Failure Unit)) :
    (outcomes.map fun result => result.map fun () => path).flatMap u.stored =
      (outcomes.filterMap Except.toOption).map fun () => (path, u.artifact.bytes) := by
  induction outcomes with
  | nil => rfl
  | cons result outcomes ih =>
    rw [List.map_cons, List.flatMap_cons, ih]
    cases result <;> rfl

/-- Of equal saves that all came to their end, just those store the artifact that succeeded. -/
theorem stores_play {u : Upload} {fs : FileSystem} {path : FilePath} {count : Nat}
    {schedule : List Nat} {broken : Nat → Option BrokenWrite}
    (finished :
      (Contest.play fs (List.replicate count (u.artifact, path)) schedule broken).Finished) :
    ∃ outcomes : List (Except Failure Unit),
      (Contest.play fs (List.replicate count (u.artifact, path)) schedule broken).results =
        outcomes.map some ∧
      fs.Stores ((outcomes.map fun result => result.map fun () => path).flatMap u.stored)
        (Contest.play fs (List.replicate count (u.artifact, path)) schedule broken).fileSystem := by
  obtain ⟨outcomes, results, -⟩ := Contest.decided_of_finished finished
  have alike : ∀ s ∈ (Contest.start fs (List.replicate count (u.artifact, path)) broken).saves,
      s.artifact = u.artifact ∧ s.path = path := fun s member =>
    Prod.mk.inj (List.eq_of_mem_replicate (Contest.stage_of_mem_start member).2.1)
  have rivals := (Rivals.start fs path _ broken).run (fun s member => (alike s member).2) schedule
  have still := Contest.forall_mem_run (fun _ _ same => same) alike schedule
  refine ⟨outcomes, results, ?_⟩
  rw [flatMap_stored]
  obtain ⟨none_, same⟩ | ⟨one, created, place, create, filled⟩ :=
    rivals.outcomes_cases (fun s member => (still s member).1) results
  · rw [none_, Contest.play, same]
    exact .nothing fs
  · obtain ⟨dir, name, free, stands, rfl, rfl⟩ := FileSystem.createNew_eq_ok_iff.mp create
    rw [one, Contest.play, filled, FileSystem.setContent_insert]
    exact .file stands free (.nothing _)

theorem reduceOption_map_some {α : Type} (as : List α) : (as.map some).reduceOption = as := by
  change (as.map some).filterMap id = as
  rw [List.filterMap_map]
  exact List.filterMap_some

/-- Of saves that run at the same time, in any order in which all come to their end, just those
store the artifact that tell so. -/
theorem stores_raceBy {u : Upload} {fs : FileSystem} (destination : Destination) {count : Nat}
    {schedule : List Nat} {broken : Nat → Option BrokenWrite}
    (finished : ∀ path, u.locate destination = .ok path →
      (Contest.play fs (List.replicate count (u.artifact, path)) schedule broken).Finished) :
    (u.raceBy fs destination count schedule broken).2.2.length = count ∧
      fs.Stores ((u.raceBy fs destination count schedule broken).2.2.flatMap u.stored)
        (u.raceBy fs destination count schedule broken).1 := by
  unfold raceBy
  cases located : u.locate destination with
  | error failure =>
    dsimp only
    rw [stored_replicate_error]
    exact ⟨List.length_replicate, .nothing fs⟩
  | ok path =>
    rcases stores_play (finished path located) with ⟨outcomes, results, stores⟩
    have many := Contest.length_outcomes results
    rw [List.length_replicate] at many
    rw [Contest.play] at results stores
    dsimp only
    rw [results, reduceOption_map_some, List.length_map]
    exact ⟨many, stores⟩

/-- The schedule in which saves take turns ends with all of them done. -/
theorem finished_turns (u : Upload) (fs : FileSystem) (path : FilePath) (count : Nat)
    (broken : Nat → Option BrokenWrite) :
    (Contest.play fs (List.replicate count (u.artifact, path)) (Contest.turns count)
      broken).Finished := by
  refine Contest.finished_of_turns Contest.remaining_start fun i inside => ?_
  rw [Contest.length_start, List.length_replicate] at inside
  exact Nat.le_of_eq (Contest.count_turns inside).symm

/-! ## Saves that are dropped -/

/-- A save that is dropped right after its file was created stores nothing. -/
theorem cancelSave_fileSystem (u : Upload) (fs : FileSystem) (destination : Destination) :
    (u.cancelSave fs destination).1 = fs := by
  unfold cancelSave
  cases u.locate destination with
  | error failure => rfl
  | ok path =>
    have same := cancel_fileSystem fs u.artifact path
    dsimp only
    generalize Save.cancel fs u.artifact path = dropped at same
    rcases dropped with ⟨after, events, ended⟩
    cases ended <;> exact same

end Upload

end Intake
