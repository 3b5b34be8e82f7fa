import Intake.Proofs.FilePath.Descent

/-!
# Equal trees in different places

Two base directories, in one file system or in two, mirror each other when the same entries lie
beneath them and none of these is a link. What a path behind such a directory leads to depends on
the tree beneath it only, and neither on where the directory lies nor on how it was spelled, unless
the whole path is too long.

* `SameBeneath.walk_alike`: walks down from both directories end alike.
* `Mirrors.resolve_alike`: a path leads to the same behind both directories, so it exists behind
  both or behind neither (`Mirrors.tryExists_eq`).
* `Mirrors.createNew_alike`: a file is created behind both directories or behind neither, and the
  directories mirror each other again.
-/

namespace Intake.FileSystem

variable {fs gs : FileSystem} {home house : Location}

/-! ## Places beneath a directory -/

/-- A place beneath a directory, as the root sees it. -/
def beneath {α : Type} (home : Location) (found : Location × α) : Location × α :=
  (found.1 ++ home, found.2)

/-- Beneath `home` in `fs` lies what lies beneath `house` in `gs`, and no link. -/
structure SameBeneath (fs : FileSystem) (home : Location) (gs : FileSystem) (house : Location) :
    Prop where
  same : ∀ below, fs.find? (below ++ home) = gs.find? (below ++ house)
  free : fs.LinkFreeBeneath home

/-- Walks down in equal trees end alike, whatever number of links they may follow. -/
theorem SameBeneath.walk_alike (trees : fs.SameBeneath home gs house) (links links' : Nat)
    {steps : List Bytes} (down : ∀ step ∈ steps, isUp step = false) (below : Location)
    (strict : Bool) :
    ∃ found : Except IoFault (Location × Entry),
      fs.walk links (below ++ home) steps strict = found.map (beneath home) ∧
        gs.walk links' (below ++ house) steps strict = found.map (beneath house) := by
  induction steps generalizing below with
  | nil => exact ⟨.ok (below, .directory), by rw [walk]; rfl, by rw [walk]; rfl⟩
  | cons step rest ih =>
    have notUp : ¬ isUp step = true := by simp [down step (List.mem_cons_self ..)]
    have later := ih fun other member => down other (List.mem_cons_of_mem _ member)
    by_cases stays : isHere step = true
    · rw [walk, if_pos stays, walk, if_pos stays]
      exact later below
    rw [walk, if_neg stays, if_neg notUp, walk, if_neg stays, if_neg notUp]
    by_cases long : maxName < step.length
    · rw [if_pos long, if_pos long]
      exact ⟨.error .nameTooLong, rfl, rfl⟩
    rw [if_neg long, if_neg long, ← List.cons_append, ← List.cons_append, ← trees.same]
    cases there : fs.find? (step :: below ++ home) with
    | none => exact ⟨.error .notFound, rfl, rfl⟩
    | some entry =>
      cases entry with
      | directory => exact later (step :: below)
      | file content =>
        by_cases ends : rest = [] ∧ strict = false
        · exact ⟨.ok (step :: below, .file content), if_pos ends, if_pos ends⟩
        · exact ⟨.error .notADirectory, if_neg ends, if_neg ends⟩
      | link target => exact absurd there (trees.free _ _ (List.suffix_append ..))

/-- Trees stay equal when the same file is put into both. -/
theorem SameBeneath.insert (trees : fs.SameBeneath home gs house) {below : Location}
    {name content : Bytes}
    (here : fs.find? (below ++ home) = some .directory ∧ fs.find? (name :: (below ++ home)) = none)
    (there : gs.find? (below ++ house) = some .directory ∧
      gs.find? (name :: (below ++ house)) = none) :
    (fs.insert (below ++ home) name (.file content) here).SameBeneath home
      (gs.insert (below ++ house) name (.file content) there) house where
  same := by
    intro other
    have apart (root : Location) :
        other ++ root = name :: (below ++ root) ↔ other = name :: below := by
      rw [← List.cons_append, List.append_cancel_right_eq]
    rw [find?_insert, find?_insert, trees.same]
    simp only [apart]
  free := (fs.gains_insert _ name content here).linkFreeBeneath trees.free

/-! ## Paths behind a directory -/

/-- Whether a path behind a directory can be passed on. -/
def passage (base tail : FilePath) : Except IoFault Unit :=
  if 0 ∈ tail.octets then .error .nulInName
  else if maxPath < (base.join tail).octets.length then .error .nameTooLong
  else .ok ()

/-- A walk along a path behind a directory starts where one along the directory's path does. -/
theorem start_join {base tail : FilePath} {origin : Location} (begun : fs.start base = .ok origin)
    (relative : tail.isAbsolute = false) :
    fs.start (base.join tail) = (passage base tail).map fun _ => origin := by
  rcases start_eq_ok_iff.mp begun with ⟨⟨noNul, given, short⟩, place, there⟩
  have nul : 0 ∈ (base.join tail).octets ↔ 0 ∈ tail.octets := by
    rw [FilePath.mem_octets_join (by decide) base relative]
    simp [noNul]
  have nonempty : (base.join tail).octets ≠ [] := by
    rw [FilePath.octets_join base relative]
    simp [given]
  unfold start passage
  simp only [List.contains_eq_mem, decide_eq_true_eq, nul, if_neg nonempty,
    FilePath.isAbsolute_join relative given]
  split
  · rfl
  · split
    · rfl
    · split
      · next absolute => rw [place, if_pos absolute]; rfl
      · next open_ =>
        rw [if_neg open_] at place
        rw [place] at there ⊢
        rw [if_pos there]
        rfl

/-- Behind the path of a directory a walk goes on from that directory. -/
theorem walk_join {base : FilePath} (there : fs.resolve base = .ok (home, .directory)) :
    ∃ origin left, fs.start base = .ok origin ∧ ∀ (rest : List Bytes) (strict : Bool),
      fs.walk maxLinks origin (base.steps ++ rest) strict = fs.walk left home rest strict := by
  unfold resolve at there
  cases begun : fs.start base with
  | error fault => rw [begun] at there; cases there
  | ok origin =>
    rw [begun] at there
    rcases walk_append there with ⟨left, same⟩
    exact ⟨origin, left, rfl, same⟩

/-- The base directories `base` and `other` lead to equal trees. -/
structure Mirrors (fs : FileSystem) (base : FilePath) (home : Location) (gs : FileSystem)
    (other : FilePath) (house : Location) : Prop extends SameBeneath fs home gs house where
  left : fs.resolve base = .ok (home, .directory)
  right : gs.resolve other = .ok (house, .directory)

/-- Both paths are too long to be passed on, or neither is. -/
def SameReach (p q : FilePath) : Prop :=
  maxPath < p.octets.length ↔ maxPath < q.octets.length

theorem SameReach.passage_eq {base other tail : FilePath}
    (reach : SameReach (base.join tail) (other.join tail)) :
    passage base tail = passage other tail := by
  unfold passage
  simp only [show _ ↔ _ from reach]

namespace Mirrors

variable {base other tail : FilePath} (mirrors : fs.Mirrors base home gs other house)
include mirrors

/-- Behind both directories a walk is refused alike at its start, or it goes on from the
directory. -/
theorem start_alike (lands : tail.Lands) (reach : SameReach (base.join tail) (other.join tail)) :
    (∃ fault, fs.start (base.join tail) = .error fault ∧
      gs.start (other.join tail) = .error fault) ∨
    ∃ origin origin' left left',
      fs.start (base.join tail) = .ok origin ∧ gs.start (other.join tail) = .ok origin' ∧
      ∀ (rest : List Bytes) (strict : Bool),
        fs.walk maxLinks origin (base.steps ++ rest) strict = fs.walk left home rest strict ∧
        gs.walk maxLinks origin' (other.steps ++ rest) strict =
          gs.walk left' house rest strict := by
  rcases walk_join mirrors.left with ⟨origin, left, begun, walks⟩
  rcases walk_join mirrors.right with ⟨origin', left', begun', walks'⟩
  rw [start_join begun lands.relative, start_join begun' lands.relative, reach.passage_eq]
  cases passage other tail with
  | error fault => exact .inl ⟨fault, rfl, rfl⟩
  | ok passed =>
    refine .inr ⟨origin, origin', left, left', rfl, rfl, fun rest strict => ?_⟩
    exact ⟨walks rest strict, walks' rest strict⟩

/-- A path leads to the same entry at the same place beneath both directories, or nowhere. -/
theorem resolve_alike (lands : tail.Lands)
    (reach : SameReach (base.join tail) (other.join tail)) :
    ∃ found : Except IoFault (Location × Entry),
      fs.resolve (base.join tail) = found.map (beneath home) ∧
        gs.resolve (other.join tail) = found.map (beneath house) := by
  have nonempty := lands.octets_ne_nil
  unfold resolve
  rcases mirrors.start_alike lands reach with
    ⟨fault, refused, refused'⟩ | ⟨origin, origin', left, left', begun, begun', walks⟩
  · rw [refused, refused']
    exact ⟨.error fault, rfl, rfl⟩
  · rw [begun, begun', FilePath.steps_join base lands.relative,
      FilePath.steps_join other lands.relative,
      FilePath.endsInSlash_join base lands.relative nonempty,
      FilePath.endsInSlash_join other lands.relative nonempty]
    dsimp only
    rw [(walks _ _).1, (walks _ _).2]
    apply mirrors.walk_alike left left' _ []
    exact fun step member => (lands.down step member).1

/-- A path exists behind both directories, or behind neither. -/
theorem tryExists_eq (lands : tail.Lands)
    (reach : SameReach (base.join tail) (other.join tail)) :
    fs.tryExists (base.join tail) = gs.tryExists (other.join tail) := by
  rcases mirrors.resolve_alike lands reach with ⟨found, here, there⟩
  unfold tryExists
  rw [here, there]
  cases found <;> rfl

/-- A path stands for the same name at the same place beneath both directories, or for none. -/
theorem parent_alike (lands : tail.Lands)
    (reach : SameReach (base.join tail) (other.join tail)) :
    ∃ stands : Except IoFault (Location × Bytes),
      fs.parent (base.join tail) = stands.map (beneath home) ∧
        gs.parent (other.join tail) = stands.map (beneath house) := by
  unfold parent
  rcases mirrors.start_alike lands reach with
    ⟨fault, refused, refused'⟩ | ⟨origin, origin', left, left', begun, begun', walks⟩
  · rw [refused, refused']
    exact ⟨.error fault, rfl, rfl⟩
  -- The last step is the name, and the steps before it go down to the directory that holds it.
  obtain ⟨front, last, steps⟩ : ∃ front last, tail.steps = front ++ [last] :=
    ⟨_, _, (List.dropLast_concat_getLast lands.steps_ne_nil).symm⟩
  have down : ∀ step ∈ front, isUp step = false := by
    intro step member
    exact (lands.down step (by rw [steps]; exact List.mem_append_left _ member)).1
  rcases mirrors.walk_alike left left' down [] true with ⟨found, here, there⟩
  rw [List.nil_append] at here there
  rw [begun, begun', FilePath.steps_join base lands.relative,
    FilePath.steps_join other lands.relative,
    FilePath.endsInSlash_join base lands.relative lands.octets_ne_nil,
    FilePath.endsInSlash_join other lands.relative lands.octets_ne_nil, steps,
    ← List.append_assoc, ← List.append_assoc, List.getLast?_concat, List.getLast?_concat,
    List.dropLast_concat, List.dropLast_concat]
  dsimp only
  rw [(walks _ _).1, (walks _ _).2, here, there]
  cases found with
  | error fault => exact ⟨.error fault, rfl, rfl⟩
  | ok found =>
    dsimp only [Except.map, beneath]
    split
    · exact ⟨.error .alreadyExists, rfl, rfl⟩
    · split
      · exact ⟨.error .isADirectory, rfl, rfl⟩
      · split
        · exact ⟨.error .nameTooLong, rfl, rfl⟩
        · exact ⟨.ok (found.1, last), rfl, rfl⟩

/-- Directories mirror each other still when the same file is put beneath both. -/
theorem insert {below : Location} {name content : Bytes}
    (here : fs.find? (below ++ home) = some .directory ∧ fs.find? (name :: (below ++ home)) = none)
    (there : gs.find? (below ++ house) = some .directory ∧
      gs.find? (name :: (below ++ house)) = none) :
    (fs.insert (below ++ home) name (.file content) here).Mirrors base home
      (gs.insert (below ++ house) name (.file content) there) other house where
  toSameBeneath := mirrors.toSameBeneath.insert here there
  left := (fs.growsTo_insert _ name _ here).resolve mirrors.left
  right := (gs.growsTo_insert _ name _ there).resolve mirrors.right

/-- Creating a file is refused alike behind both directories, or it puts the same file beneath
both. -/
theorem createNew_alike (lands : tail.Lands)
    (reach : SameReach (base.join tail) (other.join tail)) :
    (∃ fault, fs.createNew (base.join tail) = .error fault ∧
      gs.createNew (other.join tail) = .error fault) ∨
    ∃ below name here there,
      fs.createNew (base.join tail) =
        .ok (fs.insert (below ++ home) name (.file []) here, name :: (below ++ home)) ∧
      gs.createNew (other.join tail) =
        .ok (gs.insert (below ++ house) name (.file []) there, name :: (below ++ house)) := by
  obtain ⟨stands, here, there⟩ := mirrors.parent_alike lands reach
  unfold createNew
  rw [here, there]
  cases stands with
  | error fault => exact .inl ⟨fault, rfl, rfl⟩
  | ok found =>
    obtain ⟨below, name⟩ := found
    dsimp only [Except.map, beneath]
    have open_ : (gs.find? (below ++ house) = some .directory ∧
        gs.find? (name :: (below ++ house)) = none) ↔
        fs.find? (below ++ home) = some .directory ∧ fs.find? (name :: (below ++ home)) = none := by
      rw [← List.cons_append, ← List.cons_append, mirrors.same, mirrors.same]
    split
    · next free => exact .inr ⟨below, name, free, open_.mpr free, rfl, dif_pos (open_.mpr free)⟩
    · next taken => exact .inl ⟨.alreadyExists, rfl, dif_neg fun free => taken (open_.mp free)⟩

end Mirrors

end Intake.FileSystem
