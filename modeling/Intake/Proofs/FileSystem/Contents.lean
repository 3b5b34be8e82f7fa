import Intake.Proofs.FileSystem.Creation
import Mathlib.Logic.Function.Basic

/-!
# Contents of files

`fill` gives many files other contents at once. Where paths lead does not depend on what files
hold, so looking for a path (`tryExists_fill`) and creating a file (`createNew_fill`) do the
same before and after. A single `setContent` is absorbed by a `fill` on either side
(`setContent_fill`, `fill_setContent`).
-/

namespace Intake

/-- An entry with other content, if it is a file and there is other content. -/
def Entry.filled (e : Entry) : Option Bytes → Entry
  | some content => e.withContent content
  | none => e

theorem Entry.filled_directory (content : Option Bytes) :
    Entry.directory.filled content = .directory := by
  cases content <;> rfl

theorem Entry.filled_file (old : Bytes) (content : Option Bytes) :
    (Entry.file old).filled content = .file (content.getD old) := by
  cases content <;> rfl

theorem Entry.filled_link (target : FilePath) (content : Option Bytes) :
    (Entry.link target).filled content = .link target := by
  cases content <;> rfl

theorem Entry.filled_eq_directory_iff {e : Entry} {content : Option Bytes} :
    e.filled content = .directory ↔ e = .directory := by
  cases content <;> cases e <;> simp [filled, withContent]

theorem Entry.withContent_filled (e : Entry) (old : Option Bytes) (content : Bytes) :
    (e.filled old).withContent content = e.withContent content := by
  cases old <;> cases e <;> rfl

namespace FileSystem

/-- The file system with other contents in the files for which `contents` has some. -/
def fill (fs : FileSystem) (contents : Location → Option Bytes) : FileSystem where
  entries := fs.entries.map fun e => (e.1, e.2.filled (contents e.1))
  cwd := fs.cwd
  closed := by
    intro name dir found
    simp only [entryAt, lookup_map (fun l e => e.filled (contents l))] at found ⊢
    have above := fs.closed name dir (by simpa [entryAt] using found)
    cases dir with
    | nil => rfl
    | cons a l =>
      simp only [entryAt] at above
      simp only [above, Option.map_some, Entry.filled_directory]

variable {fs : FileSystem} {contents : Location → Option Bytes}

theorem find?_fill (place : Location) :
    (fs.fill contents).find? place = (fs.find? place).map (·.filled (contents place)) := by
  cases place with
  | nil => simp [find?, entryAt, Entry.filled_directory]
  | cons a l =>
    simp only [find?, entryAt, fill]
    exact lookup_map (fun l e => e.filled (contents l)) fs.entries (a :: l)

theorem find?_fill_eq_directory_iff {place : Location} :
    (fs.fill contents).find? place = some .directory ↔ fs.find? place = some .directory := by
  rw [find?_fill, Option.map_eq_some_iff]
  simp [Entry.filled_eq_directory_iff]

theorem find?_fill_eq_none_iff {place : Location} :
    (fs.fill contents).find? place = none ↔ fs.find? place = none := by
  rw [find?_fill, Option.map_eq_none_iff]

theorem fill_none (fs : FileSystem) : fs.fill (fun _ => none) = fs := by
  refine eq_of_entries ?_ rfl
  exact List.map_id _

/-! ## Where paths lead -/

theorem walk_fill (links : Nat) (here : Location) (steps : List Bytes) (strict : Bool) :
    (fs.fill contents).walk links here steps strict =
      (fs.walk links here steps strict).map fun found =>
        (found.1, found.2.filled (contents found.1)) := by
  fun_induction fs.walk links here steps strict with
  | case1 => rw [walk, Except.map, Entry.filled_directory]
  | case2 links here strict step rest isHere ih => rw [walk, if_pos isHere, ih]
  | case3 links here strict step rest notHere isUp ih =>
    rw [walk, if_neg notHere, if_pos isUp, ih]
  | case4 links here strict step rest notHere notUp long =>
    rw [walk, if_neg notHere, if_neg notUp, if_pos long]
    rfl
  | case5 links here strict step rest notHere notUp short missing =>
    rw [walk, if_neg notHere, if_neg notUp, if_neg short, find?_fill, missing]
    rfl
  | case6 links here strict step rest notHere notUp short found ih =>
    rw [walk, if_neg notHere, if_neg notUp, if_neg short, find?_fill, found, Option.map_some,
      Entry.filled_directory]
    exact ih
  | case7 links here strict step rest notHere notUp short content found ends =>
    rw [walk, if_neg notHere, if_neg notUp, if_neg short, find?_fill, found, Option.map_some]
    simp only [Except.map, Entry.filled_file]
    exact if_pos ends
  | case8 links here strict step rest notHere notUp short content found goes =>
    rw [walk, if_neg notHere, if_neg notUp, if_neg short, find?_fill, found, Option.map_some]
    simp only [Except.map, Entry.filled_file]
    exact if_neg goes
  | case9 here strict step rest notHere notUp short target found =>
    rw [walk, if_neg notHere, if_neg notUp, if_neg short, find?_fill, found, Option.map_some,
      Entry.filled_link]
    rfl
  | case10 here strict step rest notHere notUp short target found links ih =>
    rw [walk, if_neg notHere, if_neg notUp, if_neg short, find?_fill, found, Option.map_some,
      Entry.filled_link]
    simp only [dite_eq_ite] at ih
    exact ih

theorem start_fill (p : FilePath) : (fs.fill contents).start p = fs.start p := by
  unfold start
  simp only [find?_fill_eq_directory_iff]
  rfl

theorem tryExists_fill (p : FilePath) : (fs.fill contents).tryExists p = fs.tryExists p := by
  unfold tryExists resolve
  rw [start_fill]
  cases fs.start p with
  | error fault => rfl
  | ok here =>
    dsimp only
    rw [walk_fill]
    cases fs.walk maxLinks here p.steps p.endsInSlash <;> rfl

theorem parent_fill (p : FilePath) : (fs.fill contents).parent p = fs.parent p := by
  unfold parent
  rw [start_fill]
  cases fs.start p with
  | error fault => rfl
  | ok here =>
    dsimp only
    cases p.steps.getLast? with
    | none => rfl
    | some step =>
      dsimp only
      rw [walk_fill]
      cases fs.walk maxLinks here p.steps.dropLast true <;> rfl

/-! ## Creating a file -/

theorem fill_insert (dir : Location) (name content : Bytes)
    (free : fs.find? dir = some .directory ∧ fs.find? (name :: dir) = none)
    (filledFree : (fs.fill contents).find? dir = some .directory ∧
      (fs.fill contents).find? (name :: dir) = none)
    (untouched : contents (name :: dir) = none) :
    (fs.insert dir name (.file content) free).fill contents =
      (fs.fill contents).insert dir name (.file content) filledFree := by
  refine eq_of_entries ?_ rfl
  simp only [fill, insert, List.map_cons, untouched, Entry.filled]

/-- What a create does does not depend on what files hold. -/
theorem createNew_fill {created : FileSystem} {p : FilePath} {place : Location}
    (h : fs.createNew p = .ok (created, place)) (untouched : contents place = none) :
    (fs.fill contents).createNew p = .ok (created.fill contents, place) := by
  obtain ⟨dir, name, free, stands, rfl, rfl⟩ := createNew_eq_ok_iff.mp h
  have filledFree : (fs.fill contents).find? dir = some .directory ∧
      (fs.fill contents).find? (name :: dir) = none :=
    ⟨find?_fill_eq_directory_iff.mpr free.1, find?_fill_eq_none_iff.mpr free.2⟩
  refine createNew_eq_ok_iff.mpr ⟨dir, name, filledFree, ?_, rfl, ?_⟩
  · rw [parent_fill, stands]
  · rw [fill_insert dir name [] free filledFree untouched]

theorem createNew_fill_of_error {p : FilePath} {fault : IoFault}
    (h : fs.createNew p = .error fault) : (fs.fill contents).createNew p = .error fault := by
  unfold createNew at h ⊢
  rw [parent_fill]
  cases stands : fs.parent p with
  | error other => rw [stands] at h; exact h
  | ok found =>
    obtain ⟨dir, name⟩ := found
    rw [stands] at h
    dsimp only at h ⊢
    simp only [find?_fill_eq_directory_iff, find?_fill_eq_none_iff]
    split at h
    · cases h
    · next taken => rw [dif_neg taken, h]

/-! ## Filling one file -/

/-- What is written last counts. -/
theorem setContent_fill (place : Location) (content : Bytes) :
    (fs.fill contents).setContent place content =
      fs.fill (Function.update contents place (some content)) := by
  refine eq_of_entries ?_ rfl
  simp only [setContent, fill, List.map_map]
  refine List.map_congr_left fun e _ => ?_
  dsimp only [Function.comp]
  by_cases same : e.1 = place
  · rw [if_pos same, same, Function.update_self, Entry.withContent_filled]
    rfl
  · rw [if_neg same, Function.update_of_ne same]

/-- What is written first counts where nothing is written later. -/
theorem fill_setContent {place : Location} (untouched : contents place = none) (content : Bytes) :
    (fs.setContent place content).fill contents =
      fs.fill (Function.update contents place (some content)) := by
  refine eq_of_entries ?_ rfl
  simp only [setContent, fill, List.map_map]
  refine List.map_congr_left fun e _ => ?_
  dsimp only [Function.comp]
  by_cases same : e.1 = place
  · rw [if_pos same, same, untouched, Function.update_self]
    rfl
  · rw [if_neg same, Function.update_of_ne same]

end FileSystem

end Intake
