import Intake.FilePath

/-!
File systems: directories, files and symbolic links beneath one root.

An entry lies at a `Location`, the names that lead to it from the root. `closed` holds of
every file system there is: what has an entry lies in a directory. `find?` is the view of a
file system, and `find?_insert`, `find?_setContent` and `find?_restrict` say what each change
does to it.
-/

namespace Intake

/-- The names that lead to an entry from the root, the last one first. -/
abbrev Location := List Bytes

/-- What can lie at a location. -/
inductive Entry where
  | directory
  | file (content : Bytes)
  | link (target : FilePath)
deriving DecidableEq, Repr

/-- An entry with other content, if it is a file. -/
def Entry.withContent (content : Bytes) : Entry → Entry
  | .file _ => .file content
  | entry => entry

/-- The first entry for a location in a list of entries. -/
def lookup (place : Location) : List (Location × Entry) → Option Entry
  | [] => none
  | (l, e) :: rest => if l = place then some e else lookup place rest

/-- The entry at a location; the root is a directory. -/
def entryAt (entries : List (Location × Entry)) : Location → Option Entry
  | [] => some .directory
  | name :: dir => lookup (name :: dir) entries

structure FileSystem where
  entries : List (Location × Entry)
  /-- Where relative paths start. -/
  cwd : Location
  /-- What has an entry lies in a directory. -/
  closed : ∀ (name : Bytes) (dir : Location),
    (entryAt entries (name :: dir)).isSome → entryAt entries dir = some .directory

namespace FileSystem

/-- The entry at a location, if there is one. -/
def find? (fs : FileSystem) (place : Location) : Option Entry :=
  entryAt fs.entries place

/-- A file system without entries. -/
def empty : FileSystem where
  entries := []
  cwd := []
  closed := by simp [entryAt, lookup]

/-! ## Changes at a location -/

/-- Puts an entry into a directory under a free name. -/
def insert (fs : FileSystem) (dir : Location) (name : Bytes) (entry : Entry)
    (free : fs.find? dir = some .directory ∧ fs.find? (name :: dir) = none) : FileSystem where
  entries := (name :: dir, entry) :: fs.entries
  cwd := fs.cwd
  closed := by
    intro other place found
    have keep (l : Location) (h : fs.find? l = some .directory) :
        entryAt ((name :: dir, entry) :: fs.entries) l = some .directory := by
      cases l with
      | nil => rfl
      | cons a l =>
        have differs : name :: dir ≠ a :: l := by
          intro same
          rw [same, h] at free
          simp at free
        simpa [find?, entryAt, lookup, differs] using h
    by_cases same : name :: dir = other :: place
    · simp only [List.cons.injEq] at same
      exact keep place (same.2 ▸ free.1)
    · apply keep
      apply fs.closed other place
      simpa [entryAt, lookup, same] using found

theorem lookup_filter (keep : Location → Bool) (entries : List (Location × Entry))
    (place : Location) :
    lookup place (entries.filter fun e => keep e.1) =
      if keep place then lookup place entries else none := by
  induction entries with
  | nil => simp [lookup]
  | cons head rest ih =>
    obtain ⟨l, e⟩ := head
    by_cases same : l = place
    · subst same
      cases kept : keep l <;> simp [List.filter, lookup, kept, ih]
    · cases kept : keep l <;> simp [List.filter, lookup, kept, ih, same]

/-- The file system without the locations that `keep` does not hold of, where `keep` holds of
the directory of whatever it holds of. -/
def restrict (fs : FileSystem) (keep : Location → Bool)
    (upward : ∀ name dir, keep (name :: dir) → fs.find? (name :: dir) ≠ none → keep dir) :
    FileSystem where
  entries := fs.entries.filter fun e => keep e.1
  cwd := fs.cwd
  closed := by
    intro name dir found
    simp only [entryAt, lookup_filter] at found
    split at found
    · next kept =>
      have there : fs.find? (name :: dir) ≠ none := by
        intro gone
        simp only [find?, entryAt] at gone
        simp [gone] at found
      have above := fs.closed name dir found
      cases dir with
      | nil => rfl
      | cons a l =>
        have keptAbove := upward name (a :: l) kept there
        simpa [entryAt, lookup_filter, keptAbove] using above
    · simp at found

/-- The file system without a location and everything beneath it. -/
def eraseAll (fs : FileSystem) (place : Location) : FileSystem :=
  fs.restrict (fun l => !decide (place <:+ l)) (by
    intro name dir kept _
    simp only [Bool.not_eq_true', decide_eq_false_iff_not] at kept ⊢
    exact fun below => kept (below.trans (List.suffix_cons name dir)))

/-- The file system without an entry that is no directory. -/
def eraseLeaf (fs : FileSystem) (place : Location) (leaf : fs.find? place ≠ some .directory) :
    FileSystem :=
  fs.restrict (fun l => l ≠ place) (by
    intro name dir _ there
    simp only [decide_eq_true_eq]
    rintro rfl
    exact leaf (fs.closed name dir (Option.isSome_iff_ne_none.mpr there)))

theorem lookup_map (change : Location → Entry → Entry) (entries : List (Location × Entry))
    (place : Location) :
    lookup place (entries.map fun e => (e.1, change e.1 e.2)) =
      (lookup place entries).map (change place) := by
  induction entries with
  | nil => rfl
  | cons head rest ih =>
    obtain ⟨l, e⟩ := head
    by_cases same : l = place
    · subst same
      simp [lookup]
    · simp [lookup, ih, same]

/-- The file system with other content in the file at a location. -/
def setContent (fs : FileSystem) (place : Location) (content : Bytes) : FileSystem where
  entries := fs.entries.map fun e => (e.1, if e.1 = place then e.2.withContent content else e.2)
  cwd := fs.cwd
  closed := by
    intro name dir found
    simp only [entryAt,
      lookup_map (fun l e => if l = place then e.withContent content else e)] at found ⊢
    have above := fs.closed name dir (by simpa [entryAt] using found)
    cases dir with
    | nil => rfl
    | cons a l =>
      simp only [entryAt] at above
      simp only [above, Option.map_some, Entry.withContent, ite_self]

/-! ## What changes do to the entries -/

theorem find?_root (fs : FileSystem) : fs.find? [] = some .directory := rfl

theorem find?_dir {fs : FileSystem} {name : Bytes} {dir : Location}
    (h : fs.find? (name :: dir) ≠ none) : fs.find? dir = some .directory :=
  fs.closed name dir (Option.isSome_iff_ne_none.mpr h)

theorem find?_insert (fs : FileSystem) (dir : Location) (name : Bytes) (entry : Entry)
    (free : fs.find? dir = some .directory ∧ fs.find? (name :: dir) = none) (place : Location) :
    (fs.insert dir name entry free).find? place =
      if place = name :: dir then some entry else fs.find? place := by
  cases place with
  | nil => simp [find?, entryAt]
  | cons a l =>
    by_cases same : name :: dir = a :: l
    · simp [find?, entryAt, insert, lookup, same]
    · simp [find?, entryAt, insert, lookup, same, Ne.symm same]

theorem find?_restrict (fs : FileSystem) (keep : Location → Bool)
    (upward : ∀ name dir, keep (name :: dir) → fs.find? (name :: dir) ≠ none → keep dir)
    {place : Location} (inner : place ≠ []) :
    (fs.restrict keep upward).find? place = if keep place then fs.find? place else none := by
  cases place with
  | nil => exact absurd rfl inner
  | cons a l => simp [find?, entryAt, restrict, lookup_filter]

theorem find?_setContent (fs : FileSystem) (changed place : Location) (content : Bytes) :
    (fs.setContent changed content).find? place =
      if place = changed then (fs.find? place).map (Entry.withContent content)
      else fs.find? place := by
  cases place with
  | nil => simp [find?, entryAt, Entry.withContent]
  | cons a l =>
    simp only [find?, entryAt, setContent,
      lookup_map (fun l e => if l = changed then e.withContent content else e)]
    by_cases same : a :: l = changed
    · simp [same]
    · simp [same]

end FileSystem

end Intake
