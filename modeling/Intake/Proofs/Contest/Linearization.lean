import Intake.Proofs.Contest.Progress
import Intake.Proofs.FileSystem.Contents
import Intake.Proofs.Save.Outcome

/-!
# Saves that run at the same time are linearizable

Whatever the order in which saves take their steps, there is an order in which running them
one after another (`inTurn`) gives each the same result and ends in the same file system. This is
said of saves whose writes do not break off: one that breaks off takes away the file that another
save has already found in its way.

A save is decided by one step: by the check if that finds something, and by the create
otherwise. `Linearized` says of a contest under way that running the decided saves in the order
in which they were decided leads to the file system as it will be once all files that were
created are filled. Who still has to fill which file is told by `owner`; no file has two
owners, because a create needs a free place and a file that has an owner is there.

`Linearized.step` shows that every step keeps this, with one case for each stage of a save.
-/

namespace Intake

/-- What a save was asked to do and how it will end, once that is decided. -/
def Save.decided? (s : Save) : Option ((Artifact × FilePath) × Except Failure Unit) :=
  match s.stage with
  | .checking | .creating => none
  | .writing _ | .finishing _ => some (s.task, .ok ())
  | .done result => some (s.task, result)

/-- Saves one artifact after another, each to the end. -/
def inTurn (fs : FileSystem) :
    List (Artifact × FilePath) → FileSystem × List (Except Failure Unit)
  | [] => (fs, [])
  | (artifact, path) :: rest =>
    let saved := persist fs artifact path
    let last := inTurn saved.1 rest
    (last.1, saved.2.result :: last.2)

theorem inTurn_concat (fs : FileSystem) (tasks : List (Artifact × FilePath)) (artifact : Artifact)
    (path : FilePath) :
    inTurn fs (tasks ++ [(artifact, path)]) =
      ((persist (inTurn fs tasks).1 artifact path).1,
        (inTurn fs tasks).2 ++ [(persist (inTurn fs tasks).1 artifact path).2.result]) := by
  induction tasks generalizing fs with
  | nil => rfl
  | cons task tasks ih =>
    rcases task with ⟨first, place⟩
    rw [List.cons_append, inTurn, ih, inTurn]
    rfl

/-! ## Lists in which one element changes -/

section OneChanged

variable {α β : Type} {l : List α} {i : Nat} {a b : α} {f : α → Option β}

theorem getElem?_set_of_some (found : l[i]? = some a) (b : α) (j : Nat) :
    (l.set i b)[j]? = if j = i then some b else l[j]? := by
  rcases List.getElem?_eq_some_iff.mp found with ⟨inside, -⟩
  by_cases same : j = i
  · rw [same, List.getElem?_set_self inside, if_pos rfl]
  · rw [List.getElem?_set_ne (Ne.symm same), if_neg same]

theorem filterMap_set_of_eq (found : l[i]? = some a) (same : f b = f a) :
    (l.set i b).filterMap f = l.filterMap f := by
  induction l generalizing i with
  | nil => rfl
  | cons c l ih =>
    cases i with
    | zero =>
      cases found
      rw [List.set_cons_zero, List.filterMap_cons, List.filterMap_cons, same]
    | succ i => rw [List.set_cons_succ, List.filterMap_cons, List.filterMap_cons, ih found]

theorem filterMap_set_perm {x : β} (found : l[i]? = some a) (before : f a = none)
    (after : f b = some x) : ((l.set i b).filterMap f).Perm (x :: l.filterMap f) := by
  induction l generalizing i with
  | nil => cases found
  | cons c l ih =>
    cases i with
    | zero =>
      cases found
      rw [List.set_cons_zero, List.filterMap_cons_some after, List.filterMap_cons_none before]
    | succ i =>
      rw [List.set_cons_succ]
      cases other : f c with
      | none =>
        rw [List.filterMap_cons_none other, List.filterMap_cons_none other]
        exact ih found
      | some y =>
        rw [List.filterMap_cons_some other, List.filterMap_cons_some other]
        exact ((ih found).cons y).trans (.swap x y _)

theorem map_set_of_eq {g : α → β} (found : l[i]? = some a) (same : g b = g a) :
    (l.set i b).map g = l.map g := by
  have options := filterMap_set_of_eq (f := fun x => some (g x)) found (congrArg some same)
  simpa only [List.filterMap_eq_map'] using options

end OneChanged

/-! ## Who has to fill which file -/

/-- The place of the file that a save has created and not yet filled. -/
def Save.unfilled? (s : Save) : Option Location :=
  match s.stage with
  | .writing place => some place
  | _ => none

/-- The number of the save that has to fill a file, and what it will fill in. -/
abbrev Owner := Location → Option (Nat × Bytes)

/-- `owner` tells who has to fill which file. -/
def Owns (saves : List Save) (owner : Owner) : Prop :=
  ∀ place i content, owner place = some (i, content) ↔
    ∃ s, saves[i]? = some s ∧ s.unfilled? = some place ∧ s.artifact.bytes = content

/-- What will be filled in. -/
def Owner.contents (owner : Owner) (place : Location) : Option Bytes :=
  (owner place).map Prod.snd

theorem Owner.contents_update (owner : Owner) (place : Location) (v : Option (Nat × Bytes)) :
    Owner.contents (Function.update owner place v) =
      Function.update owner.contents place (v.map Prod.snd) := by
  funext l
  unfold contents
  by_cases same : l = place
  · rw [same, Function.update_self, Function.update_self]
  · rw [Function.update_of_ne same, Function.update_of_ne same]

section Owns

variable {saves : List Save} {owner : Owner} {i : Nat} {s next : Save} {place : Location}

/-- A step before the create, or behind the write, does not change who has to fill what. -/
theorem Owns.keep (owns : Owns saves owner) (found : saves[i]? = some s)
    (before : s.unfilled? = none) (after : next.unfilled? = none) :
    Owns (saves.set i next) owner := by
  intro l j content
  rw [owns, getElem?_set_of_some found]
  by_cases same : j = i
  · subst same
    rw [if_pos rfl, found]
    simp [before, after]
  · rw [if_neg same]

/-- A create makes a save the owner of a file that has none yet. -/
theorem Owns.claim (owns : Owns saves owner) (found : saves[i]? = some s)
    (before : s.unfilled? = none) (free : owner place = none)
    (after : next.unfilled? = some place) :
    Owns (saves.set i next) (Function.update owner place (some (i, next.artifact.bytes))) := by
  intro l j content
  rw [getElem?_set_of_some found]
  by_cases here : l = place
  · subst here
    rw [Function.update_self]
    have nobody := owns l j content
    rw [free] at nobody
    by_cases same : j = i
    · subst same
      simp [after]
    · rw [if_neg same, ← nobody]
      simp [Ne.symm same]
  · rw [Function.update_of_ne here, owns]
    by_cases same : j = i
    · subst same
      rw [if_pos rfl, found]
      simp [before, after, Ne.symm here]
    · rw [if_neg same]

/-- A write leaves the file without an owner. -/
theorem Owns.release (owns : Owns saves owner) (found : saves[i]? = some s)
    (before : s.unfilled? = some place) (after : next.unfilled? = none) :
    Owns (saves.set i next) (Function.update owner place none) := by
  have mine : owner place = some (i, s.artifact.bytes) :=
    (owns place i _).mpr ⟨s, found, before, rfl⟩
  intro l j content
  rw [getElem?_set_of_some found]
  by_cases here : l = place
  · subst here
    rw [Function.update_self]
    have only := owns l j content
    rw [mine] at only
    by_cases same : j = i
    · simp [same, after]
    · rw [if_neg same, ← only]
      simp [Ne.symm same]
  · rw [Function.update_of_ne here, owns]
    by_cases same : j = i
    · subst same
      rw [if_pos rfl, found]
      simp [before, after, Ne.symm here]
    · rw [if_neg same]

end Owns

/-! ## What a step of a save does -/

/-- The steps of a save, one rule for each stage and outcome. -/
inductive Save.Steps (fs : FileSystem) (s : Save) : FileSystem → Save → Prop
  | found : s.stage = .checking → fs.tryExists s.path = .ok true →
    Steps fs s fs { s with stage := .done (.error (.destinationExists s.path)) }
  | passed : s.stage = .checking → fs.tryExists s.path ≠ .ok true →
    Steps fs s fs { s with stage := .creating }
  | created {created : FileSystem} {place : Location} : s.stage = .creating →
    fs.createNew s.path = .ok (created, place) →
    Steps fs s created { s with stage := .writing place }
  | refused {fault : IoFault} : s.stage = .creating → fs.createNew s.path = .error fault →
    Steps fs s fs { s with stage := .done (.error (refusal s.path fault)) }
  | filled {place : Location} : s.stage = .writing place →
    Steps fs s (fs.setContent place (writtenBy s.broken s.artifact))
      { s with stage := .finishing place }
  | finished {place : Location} : s.stage = .finishing place → s.broken = none →
    Steps fs s fs { s with stage := .done (.ok ()) }
  | broke {place : Location} {write : BrokenWrite} : s.stage = .finishing place →
    s.broken = some write →
    Steps fs s (removePartial fs s.path).1
      { s with stage := .done (.error (.io s.path write.fault)) }
  | idle {result : Except Failure Unit} : s.stage = .done result → Steps fs s fs s

theorem Save.steps (fs : FileSystem) (s : Save) : s.Steps fs (s.step fs).1 (s.step fs).2.2 := by
  unfold step
  cases stage : s.stage with
  | checking =>
    dsimp only
    by_cases there : fs.tryExists s.path = .ok true
    · rw [checkDestination_of_there there]
      exact .found stage there
    · rw [checkDestination_of_absent there]
      exact .passed stage there
  | creating =>
    dsimp only
    cases create : fs.createNew s.path with
    | error fault =>
      rcases claimDestination_of_refused create with ⟨same, result⟩
      rw [result, same]
      exact .refused stage create
    | ok made =>
      rw [claimDestination_of_created create]
      exact .created stage create
  | writing place => exact .filled stage
  | finishing place =>
    dsimp only
    rcases Option.eq_none_or_eq_some s.broken with ends | ⟨write, ends⟩
    · have ended := congrArg (conclude fs s.artifact s.path) ends
      rw [ended]
      exact .finished stage ends
    · have ended := congrArg (conclude fs s.artifact s.path) ends
      rw [ended]
      exact .broke stage ends
  | done result => exact .idle stage

/-! ## Contests under way -/

/-- A contest under way, seen as saves that were run one after another: `ordered` are the
decided saves with their results in the order in which they were decided. -/
structure Linearized (initial : FileSystem) (c : Contest)
    (ordered : List ((Artifact × FilePath) × Except Failure Unit)) (owner : Owner) : Prop where
  owns : Owns c.saves owner
  present : ∀ place, owner place ≠ none → c.fileSystem.find? place ≠ none
  /-- What passed the check leads to no directory, so a create is refused because something is
  there or because nothing could be there. -/
  clear : ∀ s ∈ c.saves, s.stage = .creating → c.fileSystem.isDirectory s.path = false
  decided : ordered.Perm (c.saves.filterMap Save.decided?)
  sequel : inTurn initial (ordered.map Prod.fst) =
    (c.fileSystem.fill owner.contents, ordered.map Prod.snd)

namespace Linearized

variable {initial : FileSystem} {c : Contest}
  {ordered : List ((Artifact × FilePath) × Except Failure Unit)} {owner : Owner} {i : Nat}
  {s next : Save} {after : FileSystem} {owner' : Owner}

/-- The saves behind a step that may still create lead to no directory. -/
theorem clear_set (lin : Linearized initial c ordered owner)
    (less : ∀ p, after.isDirectory p = true → c.fileSystem.isDirectory p = true)
    (mine : next.stage = .creating → c.fileSystem.isDirectory next.path = false) :
    ∀ t ∈ c.saves.set i next, t.stage = .creating → after.isDirectory t.path = false := by
  intro t member stage
  have before : c.fileSystem.isDirectory t.path = false := by
    rcases List.mem_or_eq_of_mem_set member with old | rfl
    · exact lin.clear t old stage
    · exact mine stage
  rw [Bool.eq_false_iff] at before ⊢
  exact fun leads => before (less _ leads)

/-- A step that decides no save. -/
theorem silent (lin : Linearized initial c ordered owner) (found : c.saves[i]? = some s)
    (owns : Owns (c.saves.set i next) owner')
    (present : ∀ place, owner' place ≠ none → after.find? place ≠ none)
    (less : ∀ p, after.isDirectory p = true → c.fileSystem.isDirectory p = true)
    (mine : next.stage = .creating → c.fileSystem.isDirectory next.path = false)
    (same : next.decided? = s.decided?)
    (settled : after.fill owner'.contents = c.fileSystem.fill owner.contents) :
    Linearized initial ⟨after, c.saves.set i next⟩ ordered owner' where
  owns := owns
  present := present
  clear := lin.clear_set less mine
  decided := by
    rw [filterMap_set_of_eq found same]
    exact lin.decided
  sequel := by rw [lin.sequel, settled]

/-- A step that decides a save does what the whole save would do now. -/
theorem decide {result : Except Failure Unit} (lin : Linearized initial c ordered owner)
    (found : c.saves[i]? = some s) (owns : Owns (c.saves.set i next) owner')
    (present : ∀ place, owner' place ≠ none → after.find? place ≠ none)
    (less : ∀ p, after.isDirectory p = true → c.fileSystem.isDirectory p = true)
    (mine : next.stage = .creating → c.fileSystem.isDirectory next.path = false)
    (undecided : s.decided? = none) (decision : next.decided? = some (s.task, result))
    (whole : (persist (c.fileSystem.fill owner.contents) s.artifact s.path).1 =
        after.fill owner'.contents ∧
      (persist (c.fileSystem.fill owner.contents) s.artifact s.path).2.result = result) :
    Linearized initial ⟨after, c.saves.set i next⟩ (ordered ++ [(s.task, result)]) owner' where
  owns := owns
  present := present
  clear := lin.clear_set less mine
  decided := by
    have last : (ordered ++ [(s.task, result)]).Perm ((s.task, result) :: ordered) :=
      List.perm_append_singleton ..
    exact (last.trans (lin.decided.cons _)).trans
      (filterMap_set_perm found undecided decision).symm
  sequel := by
    rw [List.map_append, List.map_append, List.map_singleton, List.map_singleton, Save.task,
      inTurn_concat, lin.sequel, whole.1, whole.2]

/-- Every step of a contest can be followed by saves that run one after another. -/
theorem step (lin : Linearized initial c ordered owner) (whole : ∀ s ∈ c.saves, s.broken = none)
    (i : Nat) : ∃ ordered' owner', Linearized initial (c.step i).1 ordered' owner' := by
  cases found : c.saves[i]? with
  | none =>
    rw [Contest.step_of_none found]
    exact ⟨ordered, owner, lin⟩
  | some s =>
    rw [Contest.step_of_save found]
    have unbroken := whole s (List.mem_of_getElem? found)
    generalize (s.step c.fileSystem).1 = after, (s.step c.fileSystem).2.2 = next,
      s.steps c.fileSystem = steps
    cases steps with
    | found stage there =>
      have idle : s.unfilled? = none := by rw [Save.unfilled?, stage]
      refine ⟨_, owner, lin.decide found (lin.owns.keep found idle rfl) lin.present
        (fun _ leads => leads) nofun (by rw [Save.decided?, stage]) rfl ?_⟩
      exact persist_of_there (by rw [FileSystem.tryExists_fill, there])
    | passed stage absent =>
      have idle : s.unfilled? = none := by rw [Save.unfilled?, stage]
      refine ⟨_, owner, lin.silent found (lin.owns.keep found idle rfl) lin.present
        (fun _ leads => leads) (fun _ => ?_) (by rw [Save.decided?, Save.decided?, stage]) rfl⟩
      rw [Bool.eq_false_iff]
      intro leads
      rcases FileSystem.isDirectory_iff.mp leads with ⟨place, directory⟩
      exact absent (FileSystem.tryExists_eq_true_iff.mpr ⟨_, directory⟩)
    | @created created place stage create =>
      rcases FileSystem.createNew_eq_ok_iff.mp create with ⟨dir, name, free, stands, rfl, rfl⟩
      have idle : s.unfilled? = none := by rw [Save.unfilled?, stage]
      have nobody : owner (name :: dir) = none := by
        by_contra owned
        exact lin.present _ owned free.2
      have untouched : owner.contents (name :: dir) = none := by
        rw [Owner.contents, nobody, Option.map_none]
      rcases persist_of_created (FileSystem.createNew_fill create untouched) with ⟨filled, result⟩
      refine ⟨_, _, lin.decide found (lin.owns.claim found idle nobody rfl) (fun l owned => ?_)
        (fun _ => FileSystem.isDirectory_of_insert free) nofun (by rw [Save.decided?, stage]) rfl
        ⟨?_, result⟩⟩
      · rw [FileSystem.find?_insert]
        split
        · simp
        · next other =>
          rw [Function.update_of_ne other] at owned
          exact lin.present l owned
      · rw [filled, FileSystem.setContent_fill, Owner.contents_update]
        rfl
    | @refused fault stage create =>
      have idle : s.unfilled? = none := by rw [Save.unfilled?, stage]
      have clear := lin.clear s (List.mem_of_getElem? found) stage
      refine ⟨_, owner, lin.decide found (lin.owns.keep found idle rfl) lin.present
        (fun _ leads => leads) nofun (by rw [Save.decided?, stage]) rfl ?_⟩
      by_cases there : c.fileSystem.tryExists s.path = .ok true
      · -- The destination came into being behind the check, so the whole save would see it.
        have late : fault = .alreadyExists := by
          by_contra other
          have leads := FileSystem.isDirectory_of_createNew create other there
          rw [clear] at leads
          cases leads
        subst late
        exact persist_of_there (by rw [FileSystem.tryExists_fill, there])
      · exact persist_of_refused (by rw [FileSystem.tryExists_fill]; exact there)
          (FileSystem.createNew_fill_of_error create)
    | @filled place stage =>
      have writes : s.unfilled? = some place := by rw [Save.unfilled?, stage]
      have mine : owner place = some (i, s.artifact.bytes) :=
        (lin.owns place i _).mpr ⟨s, found, writes, rfl⟩
      have written : writtenBy s.broken s.artifact = s.artifact.bytes := by rw [unbroken]; rfl
      rw [written]
      refine ⟨ordered, _, lin.silent found (lin.owns.release found writes rfl) (fun l owned => ?_)
        (fun _ => FileSystem.isDirectory_of_setContent) nofun
        (by rw [Save.decided?, Save.decided?, stage]; rfl) ?_⟩
      · have other : l ≠ place := by
          rintro rfl
          exact owned (Function.update_self ..)
        rw [Function.update_of_ne other] at owned
        rw [FileSystem.find?_setContent, if_neg other]
        exact lin.present l owned
      · have settled : owner.contents place = some s.artifact.bytes := by
          rw [Owner.contents, mine, Option.map_some]
        rw [Owner.contents_update, Option.map_none,
          FileSystem.fill_setContent (Function.update_self ..), Function.update_idem, ← settled,
          Function.update_eq_self]
    | broke _ breaks =>
      rw [unbroken] at breaks
      cases breaks
    | @finished place stage =>
      have idle : s.unfilled? = none := by rw [Save.unfilled?, stage]
      exact ⟨ordered, owner, lin.silent found (lin.owns.keep found idle rfl) lin.present
        (fun _ leads => leads) nofun (by rw [Save.decided?, Save.decided?, stage]; rfl) rfl⟩
    | @idle result stage =>
      have idle : s.unfilled? = none := by rw [Save.unfilled?, stage]
      exact ⟨ordered, owner, lin.silent found (lin.owns.keep found idle idle) lin.present
        (fun _ leads => leads) (fun creating => by rw [stage] at creating; cases creating) rfl
        rfl⟩

/-- Saves that have not begun. -/
theorem start (fs : FileSystem) (tasks : List (Artifact × FilePath)) :
    Linearized fs (Contest.start fs tasks) [] fun _ => none where
  owns := by
    intro place i content
    simp only [reduceCtorEq, false_iff]
    rintro ⟨s, found, unfilled, -⟩
    rw [Save.unfilled?, (Contest.stage_of_mem_start (List.mem_of_getElem? found)).1] at unfilled
    cases unfilled
  present := fun _ owned => absurd rfl owned
  clear := by
    intro s member stage
    rw [(Contest.stage_of_mem_start member).1] at stage
    cases stage
  decided := by
    have none_ : (Contest.start fs tasks).saves.filterMap Save.decided? = [] := by
      refine List.filterMap_eq_nil_iff.mpr fun s member => ?_
      rw [Save.decided?, (Contest.stage_of_mem_start member).1]
    rw [none_]
  sequel := by
    have unowned : Owner.contents (fun _ => none) = fun _ => none := rfl
    rw [unowned, FileSystem.fill_none]
    rfl

/-- Every schedule can be followed by saves that run one after another. -/
theorem run (lin : Linearized initial c ordered owner) (whole : ∀ s ∈ c.saves, s.broken = none)
    (schedule : List Nat) :
    ∃ ordered' owner', Linearized initial (c.run schedule).1 ordered' owner' := by
  induction schedule generalizing c ordered owner with
  | nil => exact ⟨ordered, owner, lin⟩
  | cons i schedule ih =>
    rcases lin.step whole i with ⟨ordered', owner', next⟩
    exact ih next (Contest.forall_mem_step (fun _ _ unbroken => unbroken) whole i)

end Linearized

/-! ## The end of a contest -/

namespace Contest

/-- The contest of saves that begin at the same time, behind a schedule. -/
def play (fs : FileSystem) (tasks : List (Artifact × FilePath)) (schedule : List Nat)
    (broken : Nat → Option BrokenWrite := fun _ => none) : Contest :=
  ((start fs tasks broken).run schedule).1

theorem tasks_step (c : Contest) (i : Nat) :
    (c.step i).1.saves.map Save.task = c.saves.map Save.task := by
  cases found : c.saves[i]? with
  | none => rw [step_of_none found]
  | some s =>
    rw [step_of_save found]
    refine map_set_of_eq found ?_
    obtain ⟨stage, same⟩ := s.step_eq c.fileSystem
    rw [same]
    rfl

theorem tasks_run (c : Contest) (schedule : List Nat) :
    (c.run schedule).1.saves.map Save.task = c.saves.map Save.task := by
  induction schedule generalizing c with
  | nil => rfl
  | cons i schedule ih => exact (ih (c.step i).1).trans (c.tasks_step i)

theorem tasks_play (fs : FileSystem) (tasks : List (Artifact × FilePath)) (schedule : List Nat) :
    (play fs tasks schedule).saves.map Save.task = tasks := by
  refine (tasks_run _ schedule).trans ?_
  refine List.ext_getElem ?_ fun i inside _ => ?_
  · rw [List.length_map, length_start]
  · rw [List.getElem_map]
    simp only [start, List.getElem_mapIdx, Save.task]

/-- Once all saves are done, each has a result, and it was decided so. -/
theorem decided_of_finished {saves : List Save} (finished : ∀ s ∈ saves, s.result?.isSome) :
    ∃ outcomes, saves.map Save.result? = outcomes.map some ∧
      saves.filterMap Save.decided? = (saves.map Save.task).zip outcomes := by
  induction saves with
  | nil => exact ⟨[], rfl, rfl⟩
  | cons s saves ih =>
    obtain ⟨outcomes, results, decided⟩ := ih fun t member =>
      finished t (List.mem_cons_of_mem s member)
    rcases Option.isSome_iff_exists.mp (finished s (List.mem_cons_self ..)) with ⟨result, ended⟩
    have decision : s.decided? = some (s.task, result) := by
      unfold Save.result? at ended
      unfold Save.decided?
      split at ended
      · next stage => cases ended; rw [stage]
      · cases ended
    refine ⟨result :: outcomes, ?_, ?_⟩
    · rw [List.map_cons, ended, results, List.map_cons]
    · rw [List.filterMap_cons_some decision, decided, List.map_cons, List.zip_cons_cons]

/-- No file is left to be filled once all saves are done. -/
theorem unowned_of_finished {c : Contest} {owner : Owner} (owns : Owns c.saves owner)
    (finished : c.Finished) : owner = fun _ => none := by
  funext place
  by_contra owned
  rcases Option.ne_none_iff_exists'.mp owned with ⟨⟨i, content⟩, owned⟩
  rcases (owns place i content).mp owned with ⟨s, found, unfilled, -⟩
  have ended := finished s (List.mem_of_getElem? found)
  unfold Save.result? at ended
  unfold Save.unfilled? at unfilled
  split at unfilled
  · next stage => rw [stage] at ended; cases ended
  · cases unfilled

/-- Running the saves one after another, in some order, gives each the same result and ends in
the same file system. -/
theorem sequel_of_finished {fs : FileSystem} {tasks : List (Artifact × FilePath)}
    {schedule : List Nat} (finished : (play fs tasks schedule).Finished) :
    ∃ outcomes, (play fs tasks schedule).results = outcomes.map some ∧
      ∃ ordered : List ((Artifact × FilePath) × Except Failure Unit),
        ordered.Perm (tasks.zip outcomes) ∧
          inTurn fs (ordered.map Prod.fst) =
            ((play fs tasks schedule).fileSystem, ordered.map Prod.snd) := by
  have whole : ∀ s ∈ (start fs tasks).saves, s.broken = none := fun s member =>
    (stage_of_mem_start member).2.2.elim fun _ same => same
  rcases (Linearized.start fs tasks).run whole schedule with ⟨ordered, owner, lin⟩
  rcases decided_of_finished finished with ⟨outcomes, results, decided⟩
  rw [tasks_play] at decided
  refine ⟨outcomes, results, ordered, ?_, ?_⟩
  · rw [← decided]
    exact lin.decided
  · have unowned := unowned_of_finished lin.owns finished
    subst unowned
    rw [lin.sequel]
    have settled := FileSystem.fill_none (play fs tasks schedule).fileSystem
    exact Prod.ext settled rfl

/-! ## Equal saves -/

theorem inTurn_replicate_of_error {fs : FileSystem} {artifact : Artifact} {path : FilePath}
    {failure : Failure} (fails : (persist fs artifact path).2.result = .error failure) (n : Nat) :
    inTurn fs (List.replicate n (artifact, path)) =
      (fs, List.replicate n (.error failure)) := by
  induction n with
  | zero => rfl
  | succ n ih =>
    rw [List.replicate_succ, inTurn, persist_eq_error fails, fails, ih]
    rfl

/-- Behind a save that succeeds, the same save fails because its file is there. -/
theorem inTurn_replicate_of_ok {fs : FileSystem} {artifact : Artifact} {path : FilePath}
    (saved : (persist fs artifact path).2.result = .ok ()) (n : Nat) :
    inTurn fs (List.replicate (n + 1) (artifact, path)) =
      ((persist fs artifact path).1,
        .ok () :: List.replicate n (.error (.destinationExists path))) := by
  rcases resolve_persist saved with ⟨place, leads⟩
  have there := FileSystem.tryExists_eq_true_iff.mpr ⟨_, leads⟩
  rw [List.replicate_succ, inTurn, saved,
    inTurn_replicate_of_error (persist_of_there there).2]

/-- Of equal saves exactly one wins if a lone one would, and all fail like a lone one if that
would fail. -/
theorem equal_saves {fs last : FileSystem} {artifact : Artifact} {path : FilePath} {n : Nat}
    {outcomes : List (Except Failure Unit)}
    {ordered : List ((Artifact × FilePath) × Except Failure Unit)}
    (many : outcomes.length = n + 1)
    (perm : ordered.Perm ((List.replicate (n + 1) (artifact, path)).zip outcomes))
    (sequel : inTurn fs (ordered.map Prod.fst) = (last, ordered.map Prod.snd)) :
    ((persist fs artifact path).2.result = .ok () →
      outcomes.Perm (.ok () :: List.replicate n (.error (.destinationExists path))) ∧
        last = (persist fs artifact path).1) ∧
    ∀ failure, (persist fs artifact path).2.result = .error failure →
      outcomes = List.replicate (n + 1) (.error failure) ∧ last = fs := by
  have lengths : (List.replicate (n + 1) (artifact, path)).length = outcomes.length := by
    rw [List.length_replicate, many]
  have tasks : ordered.map Prod.fst = List.replicate (n + 1) (artifact, path) := by
    refine List.perm_replicate.mp ((perm.map Prod.fst).trans ?_)
    rw [List.map_fst_zip (Nat.le_of_eq lengths)]
  have results : (ordered.map Prod.snd).Perm outcomes := by
    refine (perm.map Prod.snd).trans ?_
    rw [List.map_snd_zip (Nat.le_of_eq lengths.symm)]
  rw [tasks] at sequel
  constructor
  · intro saved
    rw [inTurn_replicate_of_ok saved, Prod.mk.injEq] at sequel
    refine ⟨?_, sequel.1.symm⟩
    rw [sequel.2]
    exact results.symm
  · intro failure fails
    rw [inTurn_replicate_of_error fails, Prod.mk.injEq] at sequel
    rw [← sequel.2] at results
    exact ⟨List.perm_replicate.mp results.symm, sequel.1.symm⟩

theorem length_outcomes {fs : FileSystem} {tasks : List (Artifact × FilePath)}
    {schedule : List Nat} {broken : Nat → Option BrokenWrite}
    {outcomes : List (Except Failure Unit)}
    (results : (play fs tasks schedule broken).results = outcomes.map some) :
    outcomes.length = tasks.length := by
  have lengths := congrArg List.length results
  rw [List.length_map, Contest.results, List.length_map] at lengths
  rw [← lengths, play, length_run, length_start]

/-- Saves that run at the same time are linearizable. A schedule that gives each four turns ends
with all of them done, and whenever all are done, running them one after another in some order
gives each the same result and ends in the same file system. Of equal saves exactly one wins if
a lone one would, and all fail like a lone one if that would fail. -/
theorem linearizable (fs : FileSystem) (tasks : List (Artifact × FilePath))
    (schedule : List Nat) :
    ((∀ i < tasks.length, Save.stepCount ≤ schedule.count i) →
      (play fs tasks schedule).Finished) ∧
    ((play fs tasks schedule).Finished →
      ∃ outcomes, (play fs tasks schedule).results = outcomes.map some ∧
        (∃ ordered : List ((Artifact × FilePath) × Except Failure Unit),
          ordered.Perm (tasks.zip outcomes) ∧
            inTurn fs (ordered.map Prod.fst) =
              ((play fs tasks schedule).fileSystem, ordered.map Prod.snd)) ∧
        ∀ n artifact path, tasks = List.replicate (n + 1) (artifact, path) →
          ((persist fs artifact path).2.result = .ok () →
            outcomes.Perm (.ok () :: List.replicate n (.error (.destinationExists path))) ∧
              (play fs tasks schedule).fileSystem = (persist fs artifact path).1 ∧
              (play fs tasks schedule).fileSystem.read? path = some artifact.bytes) ∧
          ∀ failure, (persist fs artifact path).2.result = .error failure →
            outcomes = List.replicate (n + 1) (.error failure) ∧
              (play fs tasks schedule).fileSystem = fs) := by
  constructor
  · intro turns
    refine finished_of_turns remaining_start fun i inside => turns i ?_
    rwa [length_start] at inside
  · intro finished
    rcases sequel_of_finished finished with ⟨outcomes, results, ordered, perm, sequel⟩
    refine ⟨outcomes, results, ⟨ordered, perm, sequel⟩, ?_⟩
    rintro n artifact path rfl
    have many := length_outcomes results
    rw [List.length_replicate] at many
    rcases equal_saves many perm sequel with ⟨win, lose⟩
    refine ⟨fun saved => ?_, lose⟩
    rcases win saved with ⟨shared, last⟩
    rcases resolve_persist saved with ⟨place, leads⟩
    exact ⟨shared, last, by rw [last, FileSystem.read?, leads]⟩

/-- Two saves of one artifact that both pass the check before either creates its file. -/
theorem linearizable_two_saves :
    ∃ outcomes : List (Except Failure Unit),
      (play .empty (List.replicate 2 (⟨[1, 2], "a", ""⟩, ⟨[0x2F, 0x61]⟩))
          [0, 1, 1, 0, 0, 1, 0, 1]).results = outcomes.map some ∧
        outcomes.Perm [.ok (), .error (.destinationExists ⟨[0x2F, 0x61]⟩)] ∧
        (play .empty (List.replicate 2 (⟨[1, 2], "a", ""⟩, ⟨[0x2F, 0x61]⟩))
          [0, 1, 1, 0, 0, 1, 0, 1]).fileSystem.read? ⟨[0x2F, 0x61]⟩ = some [1, 2] := by
  have whole := linearizable .empty (List.replicate 2 (⟨[1, 2], "a", ""⟩, ⟨[0x2F, 0x61]⟩))
    [0, 1, 1, 0, 0, 1, 0, 1]
  rcases whole.2 (whole.1 (by decide)) with ⟨outcomes, results, -, equal⟩
  have create : FileSystem.empty.createNew ⟨[0x2F, 0x61]⟩ = .ok (_, [[0x61]]) :=
    FileSystem.createNew_of_single rfl rfl ⟨rfl, rfl⟩ rfl (by decide) rfl
  have lone : (persist .empty ⟨[1, 2], "a", ""⟩ ⟨[0x2F, 0x61]⟩).2.result = .ok () :=
    (persist_of_created create).2
  rcases (equal 1 _ _ rfl).1 lone with ⟨perm, -, read⟩
  exact ⟨outcomes, results, perm, read⟩

end Contest

end Intake
