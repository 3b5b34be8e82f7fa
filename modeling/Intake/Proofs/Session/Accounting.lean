import Intake.Proofs.Upload.Saving
import Intake.Session

/-!
# Sessions account for their files

A run is a sequence of operations on any number of uploads. Each operation stores just the files
that its reply tells of (`stores_of_performs`), whichever writes break off, so that at the end of a
run the files that are new are in one-to-one correspondence with the successes that were reported
on the way (`runs_account`), and every entry that was there at the beginning is there unchanged.
-/

namespace Intake

/-! ## Operations -/

/-- Whether an operation leaves it alone what is held under its label. -/
def Operation.keepsUpload : Operation → Bool
  | .receive .. | .act .drop => false
  | .act _ => true

namespace Action

/-- Where an action saves to. -/
def destination? : Action → Option Destination
  | .save name _ | .trySave name _ | .race name _ _ | .cancel name => some (Upload.named name)
  | .saveIn directory _ | .trySaveIn directory _ => some (.inDirectory (.ofString directory))
  | .drop | .persist _ _ => none

/-- The path to which an action saves an upload. -/
def path? (u : Upload) (action : Action) : Option FilePath :=
  action.destination?.bind fun destination => (u.locate destination).toOption

end Action

/-- How many successes a reply tells of. -/
def Reply.successCount : Reply → Nat
  | .saved true | .stored _ => 1
  | .raced results => results.countP Except.toBool
  | _ => 0

/-- The paths that a reply tells to have been saved to, where it tells only of success by that to
which the action saves. -/
def Reply.paths (told : Option FilePath) : Reply → List FilePath
  | .saved true => told.toList
  | .stored path => [path]
  | .raced results => results.filterMap Except.toOption
  | _ => []

/-- A reply tells of the results of saves: how many went well, and to which paths. -/
structure Reply.Tells (reply : Reply) (told : Option FilePath)
    (results : List (Except Failure FilePath)) : Prop where
  paths : reply.paths told = results.filterMap Except.toOption
  count : reply.successCount = results.countP Except.toBool

namespace Reply.Tells

theorem ofStored (result : Except Failure FilePath) (told : Option FilePath) :
    (Reply.ofStored result).Tells told [result] := by
  cases result <;> exact ⟨rfl, rfl⟩

theorem raced (results : List (Except Failure FilePath)) (told : Option FilePath) :
    (Reply.raced results).Tells told results :=
  ⟨rfl, rfl⟩

/-- Whether a save went well tells of the path where its destination lies. -/
theorem saved (u : Upload) (fs : FileSystem) (destination : Destination)
    (broken : Option BrokenWrite) :
    (Reply.saved (Upload.succeeded (u.saveTo fs destination broken).2)).Tells
      (u.locate destination).toOption [(u.saveTo fs destination broken).2.result] := by
  unfold Upload.succeeded
  cases ended : (u.saveTo fs destination broken).2.result with
  | error failure => exact ⟨rfl, rfl⟩
  | ok path =>
    rw [(Upload.saveTo_eq_ok ended).1]
    exact ⟨rfl, rfl⟩

variable {reply : Reply} {told : Option FilePath} {results : List (Except Failure FilePath)}

theorem stored (tells : reply.Tells told results) (u : Upload) :
    (reply.paths told).map (fun path => (path, u.artifact.bytes)) =
      results.flatMap u.stored := by
  rw [tells.paths]
  clear tells
  induction results with
  | nil => rfl
  | cons result results ih =>
    rw [List.flatMap_cons, ← ih]
    cases result <;> rfl

theorem length (tells : reply.Tells told results) :
    (reply.paths told).length = reply.successCount := by
  rw [tells.paths, tells.count, List.length_filterMap_eq_countP]
  refine List.countP_congr fun result _ => ?_
  cases result <;> rfl

end Reply.Tells

/-- An operation under a label, as it was performed. -/
structure Performed where
  before : Session
  label : String
  operation : Operation
  reply : Reply
  after : Session

/-- The paths that an operation reported to have saved to, with the octets of the artifact that
was saved. -/
def Performed.successes (step : Performed) : List (FilePath × Bytes) :=
  match step.operation, step.before.upload? step.label with
  | .act action, some u =>
    (step.reply.paths (action.path? u)).map fun path => (path, u.artifact.bytes)
  | _, _ => []

namespace Session

/-- What an operation may do. The saves of a race take their steps in any order in which all of
them come to their end. -/
inductive Performs [Memory] (s : Session) (label : String) : Operation → Reply → Session → Prop
  | plainly (operation : Operation) :
    Performs s label operation (s.perform label operation).2.2 (s.perform label operation).1
  | interleaved {u : Upload} (name : Option String) (count : Nat)
      (broken : Nat → Option BrokenWrite) (schedule : List Nat) (held : s.upload? label = some u)
      (finished : ∀ path, u.locate (Upload.named name) = .ok path →
        (Contest.play s.fileSystem (List.replicate count (u.artifact, path)) schedule
          broken).Finished) :
    Performs s label (.act (.race name count broken))
      (.raced (u.raceBy s.fileSystem (Upload.named name) count schedule broken).2.2)
      { s with fileSystem := (u.raceBy s.fileSystem (Upload.named name) count schedule broken).1 }

/-- Operations that were performed one after another. -/
inductive Runs [Memory] : Session → List Performed → Session → Prop
  | nil (s : Session) : Runs s [] s
  | cons {s next last : Session} {label : String} {operation : Operation} {reply : Reply}
      {steps : List Performed} (performs : s.Performs label operation reply next)
      (rest : Runs next steps last) :
      Runs s (⟨s, label, operation, reply, next⟩ :: steps) last

/-- The steps in which operations are done one after another, and the session behind them. -/
def transcript [Memory] (s : Session) : List (String × Operation) → List Performed × Session
  | [] => ([], s)
  | (label, operation) :: rest =>
    let done := s.perform label operation
    let later := done.1.transcript rest
    (⟨s, label, operation, done.2.2, done.1⟩ :: later.1, later.2)

/-- Any operations can be done one after another. -/
theorem runs_transcript [Memory] (s : Session) (operations : List (String × Operation)) :
    Runs s (s.transcript operations).1 (s.transcript operations).2 := by
  induction operations generalizing s with
  | nil => exact .nil s
  | cons next rest ih => exact .cons (.plainly next.2) (ih _)

/-! ## Uploads that are held -/

theorem lookup_filter_of_ne {held : List (String × Upload)} {label other : String}
    (differs : other ≠ label) :
    (held.filter fun entry => entry.1 != label).lookup other = held.lookup other := by
  induction held with
  | nil => rfl
  | cons entry held ih =>
    obtain ⟨l, u⟩ := entry
    by_cases released : l = label
    · subst released
      have missed : (other == l) = false := by simpa using differs
      simp [List.lookup_cons, missed, ih]
    · simp [List.lookup_cons, released, ih]

/-- What is held under a label stays when another label is released. -/
theorem upload?_release {s : Session} {label other : String} (differs : other ≠ label) :
    (s.release label).upload? other = s.upload? other :=
  lookup_filter_of_ne differs

/-- What is held under a label stays when an upload is held under another label. -/
theorem upload?_hold {s : Session} {u : Upload} {label other : String} (differs : other ≠ label) :
    (s.hold label u).upload? other = s.upload? other := by
  have missed : (other == label) = false := by simpa using differs
  unfold hold upload?
  rw [List.lookup_cons, missed]
  exact upload?_release differs

/-! ## One operation -/

/-- An operation leaves alone what is held, but for receiving and dropping under its label. -/
theorem upload?_of_performs [Memory] {s next : Session} {label other : String}
    {operation : Operation} {reply : Reply} (performs : s.Performs label operation reply next)
    (kept : other = label → operation.keepsUpload = true) :
    next.upload? other = s.upload? other := by
  cases performs with
  | interleaved => rfl
  | plainly =>
    cases operation with
    | receive headers body baseDir field settings =>
      have differs : other ≠ label := fun same => Bool.false_ne_true (kept same)
      unfold perform
      dsimp only
      split
      · exact upload?_hold differs
      · rfl
    | act action =>
      unfold perform
      dsimp only
      cases s.upload? label with
      | none => cases action <;> rfl
      | some u =>
        cases action with
        | drop =>
          have differs : other ≠ label := fun same => Bool.false_ne_true (kept same)
          exact upload?_release differs
        | _ => dsimp only; rw [act, upload?, upload?]

/-- What is done with an upload that is held stores just what the reply tells of. -/
theorem act_tells (s : Session) (label : String) (u : Upload) (action : Action) :
    ∃ results : List (Except Failure FilePath),
      (s.act label u action).2.2.Tells (action.path? u) results ∧
        s.fileSystem.Stores (results.flatMap u.stored) (s.act label u action).1.fileSystem := by
  have saves (destination : Destination) (broken : Option BrokenWrite) :=
    u.stores_saveTo s.fileSystem destination broken
  cases action with
  | drop => exact ⟨[], ⟨rfl, rfl⟩, .nothing _⟩
  | save name broken =>
    have stores := saves (Upload.named name) broken
    have tells := Reply.Tells.saved u s.fileSystem (Upload.named name) broken
    rw [act, Upload.save, Upload.trySave, Action.path?, Action.destination?, Option.bind_some]
    generalize u.saveTo s.fileSystem (Upload.named name) broken = saved at stores tells
    refine ⟨[saved.2.result], tells, ?_⟩
    rw [List.flatMap_singleton]
    exact stores
  | saveIn directory broken =>
    have stores := saves (.inDirectory (.ofString directory)) broken
    have tells := Reply.Tells.saved u s.fileSystem (.inDirectory (.ofString directory)) broken
    rw [act, Upload.saveIn, Upload.trySaveIn, Action.path?, Action.destination?, Option.bind_some]
    generalize u.saveTo s.fileSystem (.inDirectory (.ofString directory)) broken = saved
      at stores tells
    refine ⟨[saved.2.result], tells, ?_⟩
    rw [List.flatMap_singleton]
    exact stores
  | trySave name broken =>
    have stores := saves (Upload.named name) broken
    rw [act, Upload.trySave]
    generalize u.saveTo s.fileSystem (Upload.named name) broken = saved at stores
    refine ⟨[saved.2.result], .ofStored _ _, ?_⟩
    rw [List.flatMap_singleton]
    exact stores
  | trySaveIn directory broken =>
    have stores := saves (.inDirectory (.ofString directory)) broken
    rw [act, Upload.trySaveIn]
    generalize u.saveTo s.fileSystem (.inDirectory (.ofString directory)) broken = saved at stores
    refine ⟨[saved.2.result], .ofStored _ _, ?_⟩
    rw [List.flatMap_singleton]
    exact stores
  | persist path broken =>
    refine ⟨[(persist s.fileSystem u.artifact path broken).2.result.map fun () => path], ?_⟩
    rw [act, List.flatMap_singleton]
    exact ⟨.ofStored _ _, u.stores_persist s.fileSystem path broken⟩
  | race name count broken =>
    obtain ⟨-, stores⟩ := Upload.stores_raceBy (Upload.named name) fun path _ =>
      u.finished_turns s.fileSystem path count broken
    refine ⟨(u.race s.fileSystem (Upload.named name) count broken).2.2, ?_⟩
    rw [act]
    exact ⟨.raced _ _, stores⟩
  | cancel name =>
    refine ⟨[], ?_⟩
    rw [act, List.flatMap_nil]
    dsimp only
    rw [u.cancelSave_fileSystem]
    exact ⟨⟨rfl, rfl⟩, .nothing _⟩

/-- An operation stores just what its reply tells of. -/
theorem stores_of_performs [Memory] {s next : Session} {label : String} {operation : Operation}
    {reply : Reply} (performs : s.Performs label operation reply next) :
    s.fileSystem.Stores (Performed.successes ⟨s, label, operation, reply, next⟩) next.fileSystem ∧
      (Performed.successes ⟨s, label, operation, reply, next⟩).length = reply.successCount := by
  cases performs with
  | @interleaved u name count broken schedule held finished =>
    obtain ⟨-, stores⟩ := Upload.stores_raceBy _ finished
    have tells := Reply.Tells.raced
      (u.raceBy s.fileSystem (Upload.named name) count schedule broken).2.2
      ((Action.race name count broken).path? u)
    rw [← tells.stored] at stores
    unfold Performed.successes
    dsimp only
    rw [held]
    exact ⟨stores, (List.length_map _).trans tells.length⟩
  | plainly =>
    unfold Performed.successes perform
    cases operation with
    | receive headers body baseDir field settings =>
      dsimp only
      split <;> exact ⟨.nothing _, rfl⟩
    | act action =>
      dsimp only
      cases s.upload? label with
      | none => cases action <;> exact ⟨.nothing _, rfl⟩
      | some u =>
        obtain ⟨results, tells, stores⟩ := s.act_tells label u action
        rw [← tells.stored] at stores
        exact ⟨stores, (List.length_map _).trans tells.length⟩

/-- Where a file can be created for it, an upload that is held is saved unless its write breaks
off. -/
theorem performs_trySave [Memory] {s : Session} {label : String} {u : Upload}
    {name : Option String} {path : FilePath} {created : FileSystem} {place : Location}
    (held : s.upload? label = some u) (located : u.locate (Upload.named name) = .ok path)
    (create : s.fileSystem.createNew path = .ok (created, place)) :
    s.Performs label (.act (.trySave name)) (.stored path)
        { s with fileSystem := created.setContent place u.artifact.bytes } ∧
      ∀ write, s.Performs label (.act (.trySave name (some write)))
        (.failed (.io path write.fault)) s := by
  have performs (broken : Option BrokenWrite) :
      s.Performs label (.act (.trySave name broken))
        (.ofStored ((persist s.fileSystem u.artifact path broken).2.result.map fun _ => path))
        { s with fileSystem := (persist s.fileSystem u.artifact path broken).1 } := by
    obtain ⟨after, result⟩ := Upload.saveTo_of_located s.fileSystem located broken
    have plainly : s.Performs label _ _ _ := .plainly (.act (.trySave name broken))
    unfold perform at plainly
    dsimp only at plainly
    rw [held] at plainly
    dsimp only [act, Upload.trySave] at plainly
    rwa [after, result] at plainly
  constructor
  · have saved := performs none
    obtain ⟨after, result⟩ := persist_of_created create
    rwa [after, result] at saved
  · intro write
    obtain ⟨after, result⟩ := persist_of_broken create write
    have failed := performs (some write)
    rwa [after, result] at failed

/-! ## Runs -/

theorem stores_of_runs [Memory] {s last : Session} {steps : List Performed}
    (runs : Runs s steps last) :
    s.fileSystem.Stores (steps.flatMap Performed.successes) last.fileSystem := by
  induction runs with
  | nil s => exact .nothing _
  | cons performs _ ih => exact (stores_of_performs performs).1.append ih

/-- An upload that is neither received anew nor dropped is the same at every step. -/
theorem upload?_of_runs [Memory] {s last : Session} {steps : List Performed} {label : String}
    (runs : Runs s steps last)
    (kept : ∀ step ∈ steps, step.label = label → step.operation.keepsUpload = true) :
    last.upload? label = s.upload? label ∧
      ∀ step ∈ steps, step.before.upload? label = s.upload? label := by
  induction runs with
  | nil s => exact ⟨rfl, fun _ member => absurd member List.not_mem_nil⟩
  | @cons s next last other operation reply steps performs _ ih =>
    have same : next.upload? label = s.upload? label :=
      upload?_of_performs performs fun same => kept _ (List.mem_cons_self ..) same.symm
    obtain ⟨end_, between⟩ := ih fun step member => kept step (List.mem_cons_of_mem _ member)
    refine ⟨end_.trans same, fun step member => ?_⟩
    rcases List.mem_cons.mp member with rfl | later
    · rfl
    · exact (between step later).trans same

/-- At the end of a run every entry is there that was there at the beginning, and the files that
are new are in one-to-one correspondence with the successes that were reported: each lies where
the reported path leads, with the octets of the artifact that was saved. An operation that
reports no success changes no file, and an upload keeps its octets however often it is saved. -/
theorem runs_account [Memory] {s last : Session} {steps : List Performed}
    (runs : Runs s steps last) :
    s.fileSystem.GrowsTo last.fileSystem ∧
    (∃ places : List Location,
      List.Forall₂ (fun (file : FilePath × Bytes) place =>
        s.fileSystem.find? place = none ∧
          last.fileSystem.find? place = some (.file file.2) ∧
          last.fileSystem.resolve file.1 = .ok (place, .file file.2))
        (steps.flatMap Performed.successes) places ∧
      places.Nodup ∧
      ∀ place, place ∉ places → last.fileSystem.find? place = s.fileSystem.find? place) ∧
    (∀ step ∈ steps, step.successes.length = step.reply.successCount ∧
      (step.reply.successCount = 0 → step.after.fileSystem = step.before.fileSystem)) ∧
    ∀ label, (∀ step ∈ steps, step.label = label → step.operation.keepsUpload = true) →
      last.upload? label = s.upload? label ∧
        ∀ step ∈ steps, step.before.upload? label = s.upload? label := by
  have stores := stores_of_runs runs
  refine ⟨stores.growsTo, stores.places, ?_, fun label kept => upload?_of_runs runs kept⟩
  clear stores
  induction runs with
  | nil s => exact fun _ member => absurd member List.not_mem_nil
  | @cons s next last label operation reply steps performs _ ih =>
    intro step member
    rcases List.mem_cons.mp member with rfl | later
    · obtain ⟨stores, many⟩ := stores_of_performs performs
      refine ⟨many, fun none_ => ?_⟩
      rw [List.length_eq_zero_iff.mp (many.trans none_)] at stores
      exact stores.eq_of_nil
    · exact ih step later

/-- An upload of two octets that lies beneath the root. -/
def rootUpload : Upload :=
  ⟨⟨[1, 2], "x", ""⟩, .ofString "/"⟩

/-- An upload whose write breaks off at first is saved under its own name and under another one. -/
theorem runs_account_two_saves :
    ∃ steps last, Runs ⟨.empty, [("a", rootUpload)]⟩ steps last ∧
      steps.map (fun step => step.reply.successCount) = [0, 1, 1] ∧
      ∃ places : List Location,
        List.Forall₂ (fun (file : FilePath × Bytes) place =>
          last.fileSystem.resolve file.1 = .ok (place, .file file.2))
          [(.ofString "/x", [1, 2]), (.ofString "/y", [1, 2])] places ∧
        places.Nodup := by
  have held (fs : FileSystem) :
      Session.upload? ⟨fs, [("a", rootUpload)]⟩ "a" = some rootUpload := rfl
  have own : rootUpload.locate (Upload.named none) = .ok (.ofString "/x") := by rfl
  have other : rootUpload.locate (Upload.named (some "y")) = .ok (.ofString "/y") := by rfl
  have first : FileSystem.empty.createNew (.ofString "/x") = .ok (_, [[0x78]]) :=
    FileSystem.createNew_of_single (by decide) (by decide) (by decide) (by decide) (by decide) rfl
  obtain ⟨saved, broken⟩ := performs_trySave (held _) own first
  rw [FileSystem.setContent_insert] at saved
  have second : (FileSystem.empty.insert [] [0x78] (.file [1, 2]) ⟨rfl, rfl⟩).createNew
      (.ofString "/y") = .ok (_, [[0x79]]) :=
    FileSystem.createNew_of_single (by decide) (by decide) (by decide) (by decide) (by decide) rfl
  obtain ⟨again, -⟩ := performs_trySave (held _) other second
  have runs := Runs.cons (broken ⟨[1], .other "no room"⟩) (.cons saved (.cons again (.nil _)))
  obtain ⟨-, ⟨places, found, distinct, -⟩, -⟩ := runs_account runs
  exact ⟨_, _, runs, rfl, places, found.imp fun _ _ held => held.2.2, distinct⟩

end Session

end Intake
