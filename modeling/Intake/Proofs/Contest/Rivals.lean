import Intake.Proofs.Contest.Linearization

/-!
# Rival saves

Saves to one path are rivals: whatever the order in which they take their steps, at most one of them
has a file at a time. One whose write breaks off takes its file away again, so that another may
still succeed behind it. Such saves need not be linearizable, because a rival may have been refused
for a file that is gone at the end; but what is stored is told by their results all the same.

* `Rivals.step`: a step leaves none of them or just one with a file, and nothing else changed.
* `Rivals.outcomes_cases`: when all are done, none succeeded and the file system is as it was, or
  just one did and the file system has gained its file.
-/

namespace Intake

/-! ## Saves that have a file -/

/-- The save itself, if it has a file. -/
def Save.holder? (s : Save) : Option Save :=
  match s.stage with
  | .writing _ | .finishing _ | .done (.ok ()) => some s
  | _ => none

theorem Save.eq_of_holder? {s t : Save} (holder : s.holder? = some t) : s = t := by
  unfold holder? at holder
  split at holder <;> cases holder <;> rfl

/-- What is in the file that a save has at a place. -/
inductive Save.Holds (s : Save) (place : Location) : Bytes → Prop
  | writing : s.stage = .writing place → Holds s place []
  | finishing : s.stage = .finishing place → Holds s place (writtenBy s.broken s.artifact)
  | done : s.stage = .done (.ok ()) → Holds s place s.artifact.bytes

/-- What saves to a path have come to. Either none of them has a file, and the file system is as it
was; or just one has, where the path stood for a free name, and all else is as it was. -/
inductive Rivals (fs : FileSystem) (path : FilePath) (c : Contest) : Prop
  | nobody (none_ : c.saves.filterMap Save.holder? = []) (same : c.fileSystem = fs)
  | one {s : Save} {created : FileSystem} {place : Location} {written : Bytes}
      (only : c.saves.filterMap Save.holder? = [s])
      (create : fs.createNew path = .ok (created, place))
      (filled : c.fileSystem = created.setContent place written) (holds : s.Holds place written)

/-- Where just one element is of some kind, it is the one that changes if that is of this kind. -/
theorem filterMap_set_of_only {α β : Type} {l : List α} {i : Nat} {a : α} {f : α → Option β}
    {x y : β} (found : l[i]? = some a) (only : l.filterMap f = [x]) (mine : f a = some y) (b : α) :
    x = y ∧ (l.set i b).filterMap f = (f b).toList := by
  induction l generalizing i with
  | nil => cases found
  | cons c l ih =>
    cases i with
    | zero =>
      cases found
      rw [List.filterMap_cons_some mine, List.cons.injEq] at only
      obtain ⟨rfl, none_⟩ := only
      rw [List.set_cons_zero, List.filterMap_cons, none_]
      cases f b <;> exact ⟨rfl, rfl⟩
    | succ i =>
      cases other : f c with
      | none =>
        rw [List.filterMap_cons_none other] at only
        rw [List.set_cons_succ, List.filterMap_cons_none other]
        exact ih found only
      | some z =>
        rw [List.filterMap_cons_some other, List.cons.injEq, List.filterMap_eq_nil_iff] at only
        rw [only.2 a (List.mem_of_getElem? found)] at mine
        cases mine

namespace Rivals

variable {fs : FileSystem} {path : FilePath} {c : Contest} {i : Nat} {s next : Save}

/-- No file is created where a rival has one. -/
theorem createNew_ne_ok {created again : FileSystem} {place other : Location} {written : Bytes}
    (create : fs.createNew path = .ok (created, place)) :
    (created.setContent place written).createNew path ≠ .ok (again, other) := by
  obtain ⟨dir, name, free, stands, rfl, rfl⟩ := FileSystem.createNew_eq_ok_iff.mp create
  rw [FileSystem.setContent_insert]
  intro twice
  obtain ⟨_, _, taken, leads, -, -⟩ := FileSystem.createNew_eq_ok_iff.mp twice
  have same := leads.symm.trans ((fs.growsTo_insert dir name (.file written) free).parent stands)
  cases same
  have there := taken.2
  rw [FileSystem.find?_insert, if_pos rfl] at there
  cases there

/-- A step at which no file comes or goes. -/
theorem keep (rivals : Rivals fs path c) (found : c.saves[i]? = some s)
    (same : next.holder? = s.holder?) :
    Rivals fs path ⟨c.fileSystem, c.saves.set i next⟩ := by
  have still := filterMap_set_of_eq found same
  cases rivals with
  | nobody none_ same => exact .nobody (still.trans none_) same
  | one only create filled holds => exact .one (still.trans only) create filled holds

/-- A save that has a file is the one that has, and knows where it lies. -/
theorem of_holder (rivals : Rivals fs path c) (found : c.saves[i]? = some s)
    (holder : s.holder? = some s) :
    ∃ created place written, fs.createNew path = .ok (created, place) ∧
      c.fileSystem = created.setContent place written ∧ s.Holds place written ∧
      ∀ next : Save, (c.saves.set i next).filterMap Save.holder? = next.holder?.toList := by
  cases rivals with
  | nobody none_ same =>
    rw [List.filterMap_eq_nil_iff.mp none_ s (List.mem_of_getElem? found)] at holder
    cases holder
  | @one t created place written only create filled holds =>
    obtain ⟨rfl, -⟩ := filterMap_set_of_only found only holder s
    exact ⟨created, place, written, create, filled, holds, fun next =>
      (filterMap_set_of_only found only holder next).2⟩

/-- A step leaves none of the saves or just one with a file, and nothing else changed. -/
theorem step (rivals : Rivals fs path c) (alike : ∀ s ∈ c.saves, s.path = path) (i : Nat) :
    Rivals fs path (c.step i).1 := by
  cases found : c.saves[i]? with
  | none =>
    rw [Contest.step_of_none found]
    exact rivals
  | some s =>
    rw [Contest.step_of_save found]
    obtain rfl := alike s (List.mem_of_getElem? found)
    generalize (s.step c.fileSystem).1 = after, (s.step c.fileSystem).2.2 = next,
      s.steps c.fileSystem = steps
    cases steps with
    | found stage there => exact rivals.keep found (by rw [Save.holder?, Save.holder?, stage])
    | passed stage absent => exact rivals.keep found (by rw [Save.holder?, Save.holder?, stage])
    | refused stage create =>
      refine rivals.keep found ?_
      rw [Save.holder?, Save.holder?, stage]
    | idle stage => exact rivals.keep found rfl
    | @created created place stage create =>
      cases rivals with
      | one _ first filled _ =>
        rw [filled] at create
        exact absurd create (createNew_ne_ok first)
      | nobody none_ same =>
        have idle : s.holder? = none := by rw [Save.holder?, stage]
        have claims := filterMap_set_perm (f := Save.holder?) found idle
          (b := { s with stage := .writing place }) rfl
        rw [none_] at claims
        rw [same] at create
        exact .one (List.perm_singleton.mp claims) create (setContent_created create).symm
          (.writing rfl)
    | @filled place stage =>
      obtain ⟨created, there, written, create, same, holds, others⟩ :=
        rivals.of_holder found (by rw [Save.holder?, stage])
      cases holds with
      | finishing other | done other => rw [stage] at other; cases other
      | writing mine =>
        obtain rfl := SaveStage.writing.inj (stage.symm.trans mine)
        refine .one (others _) create ?_ (.finishing rfl)
        dsimp only
        rw [same, setContent_created create]
    | @finished place stage ends =>
      obtain ⟨created, there, written, create, same, holds, others⟩ :=
        rivals.of_holder found (by rw [Save.holder?, stage])
      cases holds with
      | writing other | done other => rw [stage] at other; cases other
      | finishing _ =>
        rw [ends] at same
        exact .one (others _) create same (.done rfl)
    | @broke place write stage ends =>
      obtain ⟨created, there, written, create, same, -, others⟩ :=
        rivals.of_holder found (by rw [Save.holder?, stage])
      refine .nobody (others _) ?_
      dsimp only
      rw [same, removePartial_of_created create]

theorem run (rivals : Rivals fs path c) (alike : ∀ s ∈ c.saves, s.path = path)
    (schedule : List Nat) : Rivals fs path (c.run schedule).1 := by
  induction schedule generalizing c with
  | nil => exact rivals
  | cons i schedule ih =>
    exact ih (rivals.step alike i) (Contest.forall_mem_step (fun _ _ same => same) alike i)

/-- Saves that have not begun. -/
theorem start (fs : FileSystem) (path : FilePath) (tasks : List (Artifact × FilePath))
    (broken : Nat → Option BrokenWrite) : Rivals fs path (Contest.start fs tasks broken) := by
  refine .nobody (List.filterMap_eq_nil_iff.mpr fun s member => ?_) rfl
  rw [Save.holder?, (Contest.stage_of_mem_start member).1]

/-- The saves that have a file when all are done are those that succeeded. -/
theorem length_holders {saves : List Save} {outcomes : List (Except Failure Unit)}
    (results : saves.map Save.result? = outcomes.map some) :
    (saves.filterMap Save.holder?).length = (outcomes.filterMap Except.toOption).length := by
  induction saves generalizing outcomes with
  | nil =>
    rw [List.map_nil, eq_comm, List.map_eq_nil_iff] at results
    rw [results]
    rfl
  | cons s saves ih =>
    cases outcomes with
    | nil => cases results
    | cons outcome outcomes =>
      rw [List.map_cons, List.map_cons, List.cons.injEq] at results
      have stage : s.stage = .done outcome := by
        have ended := results.1
        unfold Save.result? at ended
        split at ended
        · next stage => rw [stage, Option.some.inj ended]
        · cases ended
      have rest := ih results.2
      cases outcome with
      | error failure =>
        rw [List.filterMap_cons_none (by rw [Save.holder?, stage]), rest]
        rfl
      | ok done =>
        rw [List.filterMap_cons_some (b := s) (by rw [Save.holder?, stage]), List.length_cons, rest]
        rfl

/-- When all are done, none succeeded and the file system is as it was, or just one did and the file
system has gained its file. -/
theorem outcomes_cases {artifact : Artifact} (rivals : Rivals fs path c)
    (alike : ∀ s ∈ c.saves, s.artifact = artifact) {outcomes : List (Except Failure Unit)}
    (results : c.results = outcomes.map some) :
    (outcomes.filterMap Except.toOption = [] ∧ c.fileSystem = fs) ∨
    outcomes.filterMap Except.toOption = [()] ∧ ∃ created place,
      fs.createNew path = .ok (created, place) ∧
        c.fileSystem = created.setContent place artifact.bytes := by
  have many := length_holders results
  cases rivals with
  | nobody none_ same =>
    rw [none_] at many
    exact .inl ⟨List.length_eq_zero_iff.mp many.symm, same⟩
  | @one s created place written only create filled holds =>
    rw [only] at many
    obtain ⟨_, told⟩ := List.length_eq_one_iff.mp many.symm
    obtain ⟨t, member, holder⟩ := List.mem_filterMap.mp (only ▸ List.mem_singleton_self s)
    obtain rfl := Save.eq_of_holder? holder
    have ended : t.result? ∈ outcomes.map some := results ▸ List.mem_map_of_mem member
    obtain ⟨outcome, -, ended⟩ := List.mem_map.mp ended
    refine .inr ⟨told, created, place, create, ?_⟩
    cases holds with
    | writing stage | finishing stage => rw [Save.result?, stage] at ended; cases ended
    | done _ => rw [filled, alike t member]

end Rivals

end Intake
