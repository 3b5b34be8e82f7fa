import Intake.Proofs.FileSystem.Walk

/-!
# Files that come and go

A path that a file can be created at stands for a name in a directory (`parent_eq_ok_iff`).
The exclusive create puts an empty file there if the place is free (`createNew_eq_ok_iff`);
filling that file comes to the same as having put it there with its content
(`setContent_insert`), and removing it leads back to where the create began
(`removeFile_insert`).

`Gains` says that a file system is another one with one file more.
-/

namespace Intake.FileSystem

theorem eq_of_entries {fs gs : FileSystem} (entries : fs.entries = gs.entries)
    (cwd : fs.cwd = gs.cwd) : fs = gs := by
  cases fs
  cases gs
  cases entries
  cases cwd
  rfl

/-! ## Names in directories -/

/-- A path stands for a name in a directory, to which all its steps but the last lead. -/
theorem parent_eq_ok_iff {fs : FileSystem} {p : FilePath} {dir : Location} {name : Bytes} :
    fs.parent p = .ok (dir, name) ↔
      ∃ here before, fs.start p = .ok here ∧ p.steps = before ++ [name] ∧
        fs.walk maxLinks here before true = .ok (dir, .directory) ∧
        isHere name = false ∧ isUp name = false ∧ p.endsInSlash = false ∧
        name.length ≤ maxName := by
  unfold parent
  constructor
  · intro h
    cases begun : fs.start p with
    | error fault => rw [begun] at h; cases h
    | ok here =>
      rw [begun] at h
      dsimp only at h
      cases last : p.steps.getLast? with
      | none => rw [last] at h; cases h
      | some step =>
        rcases List.getLast?_eq_some_iff.mp last with ⟨before, steps⟩
        rw [last] at h
        dsimp only at h
        rw [steps, List.dropLast_concat] at h
        cases walked : fs.walk maxLinks here before true with
        | error fault => rw [walked] at h; cases h
        | ok found =>
          rcases found with ⟨place, entry⟩
          have strictly := directory_of_walk walked
          subst strictly
          rw [walked] at h
          dsimp only at h
          split at h
          · cases h
          · next plain =>
            split at h
            · cases h
            · next open_ =>
              split at h
              · cases h
              · next short =>
                cases h
                simp only [Bool.or_eq_true, not_or, Bool.not_eq_true] at plain
                exact ⟨here, before, rfl, steps, walked, plain.1, plain.2,
                  Bool.eq_false_iff.mpr open_, Nat.not_lt.mp short⟩
  · rintro ⟨here, before, begun, steps, walked, notHere, notUp, open_, short⟩
    rw [begun, steps]
    simp [walked, notHere, notUp, open_, Nat.not_lt.mpr short]

/-- A path of one step from the root stands for that step in the root. -/
theorem parent_of_single {fs : FileSystem} {p : FilePath} {name : Bytes}
    (begun : fs.start p = .ok []) (steps : p.steps = [name])
    (plain : isHere name = false ∧ isUp name = false) (open_ : p.endsInSlash = false)
    (short : name.length ≤ maxName) : fs.parent p = .ok ([], name) := by
  have stays : fs.walk maxLinks [] [] true = .ok ([], .directory) := by rw [walk]
  exact parent_eq_ok_iff.mpr ⟨[], [], begun, steps, stays, plain.1, plain.2, open_, short⟩

/-- A path leads to what lies under the name that it stands for. -/
theorem resolve_of_parent {fs : FileSystem} {p : FilePath} {dir : Location} {name : Bytes}
    (h : fs.parent p = .ok (dir, name)) :
    ∃ left, fs.resolve p = fs.walk left dir [name] false := by
  rcases parent_eq_ok_iff.mp h with ⟨here, before, begun, steps, walked, -, -, open_, -⟩
  rcases walk_append walked with ⟨left, same⟩
  exact ⟨left, by rw [resolve, begun, steps, open_]; exact same [name] false⟩

theorem walk_of_parent {fs : FileSystem} {p : FilePath} {dir : Location} {name : Bytes}
    (h : fs.parent p = .ok (dir, name)) (links : Nat) :
    fs.walk links dir [name] false =
      match fs.find? (name :: dir) with
      | none => .error .notFound
      | some .directory => .ok (name :: dir, .directory)
      | some (.file content) => .ok (name :: dir, .file content)
      | some (.link target) =>
        match links with
        | 0 => .error .tooManyLinks
        | links + 1 =>
          fs.walk links (if target.isAbsolute then [] else dir) target.steps
            target.endsInSlash := by
  rcases parent_eq_ok_iff.mp h with ⟨here, before, -, -, -, notHere, notUp, -, short⟩
  rw [walk, if_neg (by simp [notHere]), if_neg (by simp [notUp]),
    if_neg (Nat.not_lt.mpr short)]
  cases fs.find? (name :: dir) with
  | none => rfl
  | some entry =>
    cases entry with
    | directory => simp [walk]
    | file content => rfl
    | link target =>
      cases links with
      | zero => rfl
      | succ links => simp

/-- A path leads to nothing while the place that it stands for is free. -/
theorem resolve_of_free {fs : FileSystem} {p : FilePath} {dir : Location} {name : Bytes}
    (h : fs.parent p = .ok (dir, name)) (free : fs.find? (name :: dir) = none) :
    fs.resolve p = .error .notFound := by
  rcases resolve_of_parent h with ⟨left, same⟩
  rw [same, walk_of_parent h, free]

/-- A path leads to the file that lies under the name that it stands for. -/
theorem resolve_of_file {fs : FileSystem} {p : FilePath} {dir : Location} {name content : Bytes}
    (h : fs.parent p = .ok (dir, name)) (file : fs.find? (name :: dir) = some (.file content)) :
    fs.resolve p = .ok (name :: dir, .file content) := by
  rcases resolve_of_parent h with ⟨left, same⟩
  rw [same, walk_of_parent h, file]

/-- The name that a path stands for stays the same when a file system grows. -/
theorem GrowsTo.parent {before after : FileSystem} (grown : before.GrowsTo after) {p : FilePath}
    {dir : Location} {name : Bytes} (h : before.parent p = .ok (dir, name)) :
    after.parent p = .ok (dir, name) := by
  rcases parent_eq_ok_iff.mp h with ⟨here, first, begun, steps, walked, plain⟩
  exact parent_eq_ok_iff.mpr ⟨here, first,
    start_of_keeps grown.cwd (fun l => grown.keeps l _) begun, steps,
    walk_of_keeps (fun _ => True) trivial (fun _ => trivial)
      (fun place entry _ => grown.keeps place entry) trivial walked, plain⟩

/-! ## Existence -/

theorem tryExists_eq_true_iff {fs : FileSystem} {p : FilePath} :
    fs.tryExists p = .ok true ↔ ∃ found, fs.resolve p = .ok found := by
  unfold tryExists
  cases fs.resolve p with
  | ok found => simp
  | error fault => cases fault <;> simp

theorem isDirectory_iff {fs : FileSystem} {p : FilePath} :
    fs.isDirectory p = true ↔ ∃ place, fs.resolve p = .ok (place, .directory) := by
  unfold isDirectory
  cases fs.resolve p with
  | error fault => simp
  | ok found =>
    rcases found with ⟨place, entry⟩
    cases entry <;> simp

/-- A path leads to a directory only if it did so before files were added or filled. -/
theorem isDirectory_of_files {fs gs : FileSystem} {p : FilePath} (h : gs.isDirectory p = true)
    (cwd : fs.cwd = gs.cwd)
    (others : ∀ place entry, (∀ content, entry ≠ .file content) → gs.find? place = some entry →
      fs.find? place = some entry) : fs.isDirectory p = true := by
  rcases isDirectory_iff.mp h with ⟨place, found⟩
  refine isDirectory_iff.mpr ⟨place, ?_⟩
  exact resolve_of_keeps (fun entry => ∀ content, entry ≠ .file content) cwd
    (by simp) (by simp) others (by simp) found

theorem isDirectory_of_insert {fs : FileSystem} {dir : Location} {name content : Bytes}
    (free : fs.find? dir = some .directory ∧ fs.find? (name :: dir) = none) {p : FilePath}
    (h : (fs.insert dir name (.file content) free).isDirectory p = true) :
    fs.isDirectory p = true := by
  refine isDirectory_of_files h rfl fun place entry noFile found => ?_
  rw [find?_insert] at found
  split at found
  · cases found
    exact absurd rfl (noFile content)
  · exact found

theorem isDirectory_of_setContent {fs : FileSystem} {changed : Location} {content : Bytes}
    {p : FilePath} (h : (fs.setContent changed content).isDirectory p = true) :
    fs.isDirectory p = true := by
  refine isDirectory_of_files h rfl fun place entry noFile found => ?_
  rw [find?_setContent] at found
  split at found
  · rcases Option.map_eq_some_iff.mp found with ⟨old, there, rfl⟩
    cases old with
    | directory => exact there
    | link target => exact there
    | file old => exact absurd rfl (noFile content)
  · exact found

/-! ## The exclusive create -/

theorem createNew_eq_ok_iff {fs created : FileSystem} {p : FilePath} {place : Location} :
    fs.createNew p = .ok (created, place) ↔
      ∃ dir name free, fs.parent p = .ok (dir, name) ∧ place = name :: dir ∧
        created = fs.insert dir name (.file []) free := by
  unfold createNew
  cases stands : fs.parent p with
  | error fault => simp
  | ok found =>
    rcases found with ⟨dir, name⟩
    dsimp only
    split
    · next free =>
      simp only [Except.ok.injEq, Prod.mk.injEq]
      constructor
      · rintro ⟨rfl, rfl⟩
        exact ⟨dir, name, free, ⟨rfl, rfl⟩, rfl, rfl⟩
      · rintro ⟨_, _, _, ⟨rfl, rfl⟩, rfl, rfl⟩
        exact ⟨rfl, rfl⟩
    · next taken =>
      simp only [reduceCtorEq, false_iff]
      rintro ⟨_, _, free, same, _, _⟩
      cases same
      exact taken free

/-- At a path of one step from the root a file is created if nothing has that name there. -/
theorem createNew_of_single {fs : FileSystem} {p : FilePath} {name : Bytes}
    (begun : fs.start p = .ok []) (steps : p.steps = [name])
    (plain : isHere name = false ∧ isUp name = false) (open_ : p.endsInSlash = false)
    (short : name.length ≤ maxName) (free : fs.find? [name] = none) :
    fs.createNew p = .ok (fs.insert [] name (.file []) ⟨fs.find?_root, free⟩, [name]) :=
  createNew_eq_ok_iff.mpr ⟨[], name, _, parent_of_single begun steps plain open_ short, rfl, rfl⟩

/-- Nothing is there yet where a file is created. -/
theorem tryExists_of_createNew {fs created : FileSystem} {p : FilePath} {place : Location}
    (h : fs.createNew p = .ok (created, place)) : fs.tryExists p = .ok false := by
  rcases createNew_eq_ok_iff.mp h with ⟨dir, name, free, stands, -, -⟩
  rw [tryExists, resolve_of_free stands free.2]

/-- A create is refused for another reason than that something is there, although the path
leads somewhere, only if it leads to a directory. -/
theorem isDirectory_of_createNew {fs : FileSystem} {p : FilePath} {fault : IoFault}
    (refused : fs.createNew p = .error fault) (other : fault ≠ .alreadyExists)
    (there : fs.tryExists p = .ok true) : fs.isDirectory p = true := by
  rcases tryExists_eq_true_iff.mp there with ⟨⟨place, entry⟩, found⟩
  have leads := found
  unfold resolve at found
  cases begun : fs.start p with
  | error fault => rw [begun] at found; cases found
  | ok here =>
    rw [begun] at found
    dsimp only at found
    unfold createNew parent at refused
    rw [begun] at refused
    dsimp only at refused
    cases last : p.steps.getLast? with
    | none =>
      rw [last] at refused
      cases refused
      exact absurd rfl other
    | some step =>
      rcases List.getLast?_eq_some_iff.mp last with ⟨before, steps⟩
      rw [steps] at found
      rcases directory_of_walk_append found with ⟨dir, walked⟩
      rw [last, steps, List.dropLast_concat, walked] at refused
      dsimp only at refused
      split at refused
      · next dots =>
        split at dots
        · cases dots
          cases refused
          exact absurd rfl other
        · next plain =>
          split at dots
          · next slash =>
            rw [slash] at found
            have directory := directory_of_walk found
            subst directory
            exact isDirectory_iff.mpr ⟨place, leads⟩
          · next =>
            split at dots
            · next long =>
              simp only [Bool.or_eq_true, not_or, Bool.not_eq_true] at plain
              rcases walk_append walked with ⟨left, same⟩
              rw [same, walk, if_neg (by simp [plain.1]), if_neg (by simp [plain.2]),
                if_pos long] at found
              cases found
            · cases dots
      · next dir' name' stands =>
        split at refused
        · cases refused
        · cases refused
          exact absurd rfl other

/-! ## Entries that are put and removed -/

theorem lookup_eq_none_iff {place : Location} {entries : List (Location × Entry)} :
    lookup place entries = none ↔ ∀ e ∈ entries, e.1 ≠ place := by
  induction entries with
  | nil => simp [lookup]
  | cons head rest ih =>
    rcases head with ⟨l, e⟩
    by_cases same : l = place
    · simp [lookup, same]
    · simp [lookup, same, ih]

/-- Where nothing is, nothing is filled. -/
theorem map_withContent_of_free {place : Location} {entries : List (Location × Entry)}
    (free : lookup place entries = none) (content : Bytes) :
    (entries.map fun e => (e.1, if e.1 = place then e.2.withContent content else e.2)) =
      entries := by
  have others := lookup_eq_none_iff.mp free
  refine (List.map_congr_left fun e member => ?_).trans (List.map_id _)
  rw [if_neg (others e member), id]

theorem setContent_of_free {fs : FileSystem} {dir : Location} {name : Bytes}
    (free : fs.find? (name :: dir) = none) (content : Bytes) :
    fs.setContent (name :: dir) content = fs :=
  eq_of_entries (map_withContent_of_free free content) rfl

/-- Filling a file that was just put comes to the same as putting it with its content. -/
theorem setContent_insert (fs : FileSystem) (dir : Location) (name old content : Bytes)
    (free : fs.find? dir = some .directory ∧ fs.find? (name :: dir) = none) :
    (fs.insert dir name (.file old) free).setContent (name :: dir) content =
      fs.insert dir name (.file content) free := by
  refine eq_of_entries ?_ rfl
  simp only [setContent, insert, List.map_cons, if_true, Entry.withContent, List.cons.injEq,
    true_and]
  exact map_withContent_of_free free.2 content

/-- Removing what was just put leads back to the file system before. -/
theorem eraseLeaf_insert (fs : FileSystem) (dir : Location) (name : Bytes) (entry : Entry)
    (free : fs.find? dir = some .directory ∧ fs.find? (name :: dir) = none)
    (leaf : (fs.insert dir name entry free).find? (name :: dir) ≠ some .directory) :
    (fs.insert dir name entry free).eraseLeaf (name :: dir) leaf = fs := by
  have others := lookup_eq_none_iff.mp free.2
  refine eq_of_entries ?_ rfl
  simp only [eraseLeaf, restrict, insert, ne_eq, decide_not, List.filter_cons, decide_true,
    Bool.not_true, Bool.false_eq_true, if_false]
  refine List.filter_eq_self.mpr fun e member => ?_
  simp [others e member]

/-- Puts an entry where nothing is, all else is kept. -/
theorem growsTo_insert (fs : FileSystem) (dir : Location) (name : Bytes) (entry : Entry)
    (free : fs.find? dir = some .directory ∧ fs.find? (name :: dir) = none) :
    fs.GrowsTo (fs.insert dir name entry free) := by
  refine ⟨rfl, fun place other there => ?_⟩
  have differs : place ≠ name :: dir := by
    rintro rfl
    rw [free.2] at there
    cases there
  rw [find?_insert, if_neg differs, there]

/-- Removing a file that was just created leads back to the file system before. -/
theorem removeFile_insert {fs : FileSystem} {p : FilePath} {dir : Location} {name content : Bytes}
    (free : fs.find? dir = some .directory ∧ fs.find? (name :: dir) = none)
    (h : fs.parent p = .ok (dir, name)) :
    (fs.insert dir name (.file content) free).removeFile p = .ok fs := by
  have there : (fs.insert dir name (.file content) free).find? (name :: dir) =
      some (.file content) := by rw [find?_insert, if_pos rfl]
  unfold removeFile
  rw [(fs.growsTo_insert dir name (.file content) free).parent h]
  dsimp only
  rw [dif_pos (by simp [there]), if_neg (by simp [there])]
  rw [eraseLeaf_insert]

/-! ## One file more -/

/-- `after` is `before` with one file more, at a place where nothing was. -/
structure Gains (before after : FileSystem) (place : Location) (content : Bytes) : Prop where
  free : before.find? place = none
  cwd : after.cwd = before.cwd
  find? : ∀ l, after.find? l = if l = place then some (.file content) else before.find? l

theorem gains_insert (fs : FileSystem) (dir : Location) (name content : Bytes)
    (free : fs.find? dir = some .directory ∧ fs.find? (name :: dir) = none) :
    fs.Gains (fs.insert dir name (.file content) free) (name :: dir) content :=
  ⟨free.2, rfl, fs.find?_insert dir name (.file content) free⟩

theorem Gains.growsTo {before after : FileSystem} {place : Location} {content : Bytes}
    (gains : before.Gains after place content) : before.GrowsTo after := by
  refine ⟨gains.cwd, fun l entry there => ?_⟩
  have differs : l ≠ place := by
    rintro rfl
    rw [gains.free] at there
    cases there
  rw [gains.find?, if_neg differs, there]

/-- A file is no link. -/
theorem Gains.linkFreeBeneath {before after : FileSystem} {place home : Location} {content : Bytes}
    (gains : before.Gains after place content) (free : before.LinkFreeBeneath home) :
    after.LinkFreeBeneath home := by
  intro l target beneath link
  rw [gains.find?] at link
  split at link
  · cases link
  · exact free l target beneath link

/-- A file system is not itself with one file more. -/
theorem not_gains_self {fs : FileSystem} {place : Location} {content : Bytes} :
    ¬ fs.Gains fs place content := by
  intro gains
  have there := gains.find? place
  rw [if_pos rfl, gains.free] at there
  cases there

end Intake.FileSystem
