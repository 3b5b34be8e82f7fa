import Intake.FileSystem.Walk

/-!
# Walks through file systems

What a walk finds depends only on the entries that it meets.

* `walk_append`: behind steps that lead to a directory, a walk goes on from that directory
  with the links that are left.
* `walk_of_keeps`: a walk finds in one file system what it finds in another, if the first
  keeps the entries of the kinds that the walk may meet. `GrowsTo` is the case in which all
  entries are kept, so that whatever a path leads to stays where it is.
* `beneath_of_walk`: without links and steps upwards a walk stays beneath where it starts.
-/

namespace Intake.FileSystem

/-! ## Where a walk ends -/

/-- A walk from a directory ends at an entry of the file system. -/
theorem find?_of_walk {fs : FileSystem} {links : Nat} {here place : Location} {steps : List Bytes}
    {strict : Bool} {entry : Entry} (start : fs.find? here = some .directory)
    (h : fs.walk links here steps strict = .ok (place, entry)) : fs.find? place = some entry := by
  have above (l : Location) (there : fs.find? l = some .directory) :
      fs.find? l.tail = some .directory := by
    cases l with
    | nil => exact fs.find?_root
    | cons name dir =>
      have occupied : fs.find? (name :: dir) ≠ none := by simp [there]
      exact find?_dir occupied
  fun_induction fs.walk links here steps strict with
  | case1 => cases h; exact start
  | case2 links here strict step rest isHere ih => exact ih start h
  | case3 links here strict step rest notHere isUp ih => exact ih (above _ start) h
  | case6 links here strict step rest notHere notUp short found ih => exact ih found h
  | case7 links here strict step rest notHere notUp short content found ends =>
    cases h
    exact found
  | case10 here strict step rest notHere notUp short target found links ih =>
    refine ih ?_ h
    split
    · exact fs.find?_root
    · exact start
  | _ => cases h

/-- A strict walk ends at a directory. -/
theorem directory_of_walk {fs : FileSystem} {links : Nat} {here place : Location}
    {steps : List Bytes} {entry : Entry}
    (h : fs.walk links here steps true = .ok (place, entry)) : entry = .directory := by
  generalize strictly : true = strict at h
  fun_induction fs.walk links here steps strict with
  | case1 => cases h; rfl
  | case2 links here strict step rest isHere ih => exact ih strictly h
  | case3 links here strict step rest notHere isUp ih => exact ih strictly h
  | case6 links here strict step rest notHere notUp short found ih => exact ih strictly h
  | case7 links here strict step rest notHere notUp short content found ends =>
    rw [← strictly] at ends
    cases ends.2
  | case10 here strict step rest notHere notUp short target found links ih =>
    exact ih (by rw [← strictly, Bool.true_or]) h
  | _ => cases h

/-! ## Walks in two parts -/

/-- Behind steps that lead to a directory, a walk goes on from there. -/
theorem walk_append {fs : FileSystem} {links : Nat} {here there : Location} {first : List Bytes}
    {strict : Bool} (h : fs.walk links here first strict = .ok (there, .directory)) :
    ∃ left : Nat, ∀ (rest : List Bytes) (strict : Bool),
      fs.walk links here (first ++ rest) strict = fs.walk left there rest strict := by
  fun_induction fs.walk links here first strict with
  | case1 links here strict =>
    cases h
    exact ⟨links, fun _ _ => rfl⟩
  | case2 links here strict step more isHere ih =>
    rcases ih h with ⟨left, same⟩
    refine ⟨left, fun rest strict => ?_⟩
    rw [List.cons_append, walk, if_pos isHere, same]
  | case3 links here strict step more notHere isUp ih =>
    rcases ih h with ⟨left, same⟩
    refine ⟨left, fun rest strict => ?_⟩
    rw [List.cons_append, walk, if_neg notHere, if_pos isUp, same]
  | case6 links here strict step more notHere notUp short found ih =>
    rcases ih h with ⟨left, same⟩
    refine ⟨left, fun rest strict => ?_⟩
    rw [List.cons_append, walk, if_neg notHere, if_neg notUp, if_neg short, found]
    exact same rest strict
  | case10 here strict step more notHere notUp short target found links ih =>
    simp only [dite_eq_ite] at ih
    rcases ih h with ⟨left, same⟩
    refine ⟨left, fun rest strict => ?_⟩
    rw [List.cons_append, walk, if_neg notHere, if_neg notUp, if_neg short, found]
    dsimp only
    rw [← List.append_assoc, same]
    -- Only at its last step does a walk ask whether a link's target ends in a slash.
    cases rest with
    | nil => rw [walk, walk]
    | cons next rest =>
      have going : (more ++ next :: rest).isEmpty = false := by cases more <;> rfl
      rw [going, Bool.false_and, Bool.or_false]
  | _ => cases h

/-- What precedes the last step of a walk leads to a directory. -/
theorem directory_of_walk_append {fs : FileSystem} {links : Nat} {here : Location}
    {first : List Bytes} {last : Bytes} {strict : Bool} {found : Location × Entry}
    (h : fs.walk links here (first ++ [last]) strict = .ok found) :
    ∃ dir, fs.walk links here first true = .ok (dir, .directory) := by
  generalize whole : first ++ [last] = steps at h
  fun_induction fs.walk links here steps strict generalizing first with
  | case1 => simp at whole
  | case2 links here strict step rest isHere ih =>
    rcases List.append_eq_cons_iff.mp whole with ⟨rfl, _⟩ | ⟨more, rfl, rfl⟩
    · exact ⟨here, by rw [walk]⟩
    · rw [walk, if_pos isHere]
      exact ih rfl h
  | case3 links here strict step rest notHere isUp ih =>
    rcases List.append_eq_cons_iff.mp whole with ⟨rfl, _⟩ | ⟨more, rfl, rfl⟩
    · exact ⟨here, by rw [walk]⟩
    · rw [walk, if_neg notHere, if_pos isUp]
      exact ih rfl h
  | case6 links here strict step rest notHere notUp short isDir ih =>
    rcases List.append_eq_cons_iff.mp whole with ⟨rfl, _⟩ | ⟨more, rfl, rfl⟩
    · exact ⟨here, by rw [walk]⟩
    · rw [walk, if_neg notHere, if_neg notUp, if_neg short, isDir]
      exact ih rfl h
  | case7 links here strict step rest notHere notUp short content isFile ends =>
    rcases List.append_eq_cons_iff.mp whole with ⟨rfl, _⟩ | ⟨more, rfl, behind⟩
    · exact ⟨here, by rw [walk]⟩
    · rw [ends.1] at behind
      simp at behind
  | case10 here strict step rest notHere notUp short target isLink links ih =>
    rcases List.append_eq_cons_iff.mp whole with ⟨rfl, _⟩ | ⟨more, rfl, rfl⟩
    · exact ⟨here, by rw [walk]⟩
    · rw [walk, if_neg notHere, if_neg notUp, if_neg short, isLink]
      simp only [dite_eq_ite] at ih
      exact ih (List.append_assoc ..) h
  | _ => cases h

/-! ## Walks in two file systems -/

/-- A walk finds in `gs` what it finds in `fs`, if `gs` keeps the entries of a kind to which
directories, links and the entry at the end of the walk belong. -/
theorem walk_of_keeps {fs gs : FileSystem} (kept : Entry → Prop) (directory : kept .directory)
    (link : ∀ target, kept (.link target))
    (keeps : ∀ place entry, kept entry → fs.find? place = some entry → gs.find? place = some entry)
    {links : Nat} {here place : Location} {steps : List Bytes} {strict : Bool} {entry : Entry}
    (last : kept entry) (h : fs.walk links here steps strict = .ok (place, entry)) :
    gs.walk links here steps strict = .ok (place, entry) := by
  fun_induction fs.walk links here steps strict with
  | case1 => rw [← h, walk]
  | case2 links here strict step rest isHere ih => rw [walk, if_pos isHere, ih h]
  | case3 links here strict step rest notHere isUp ih =>
    rw [walk, if_neg notHere, if_pos isUp, ih h]
  | case6 links here strict step rest notHere notUp short found ih =>
    rw [walk, if_neg notHere, if_neg notUp, if_neg short, keeps _ _ directory found]
    exact ih h
  | case7 links here strict step rest notHere notUp short content found ends =>
    cases h
    rw [walk, if_neg notHere, if_neg notUp, if_neg short, keeps _ _ last found]
    exact if_pos ends
  | case10 here strict step rest notHere notUp short target found links ih =>
    rw [walk, if_neg notHere, if_neg notUp, if_neg short, keeps _ _ (link target) found]
    simp only [dite_eq_ite] at ih
    exact ih h
  | _ => cases h

/-- A walk starts along a path that can be passed on, at the root or where relative paths
start. -/
theorem start_eq_ok_iff {fs : FileSystem} {p : FilePath} {here : Location} :
    fs.start p = .ok here ↔
      (0 ∉ p.octets ∧ p.octets ≠ [] ∧ p.octets.length ≤ maxPath) ∧
        here = (if p.isAbsolute then [] else fs.cwd) ∧ fs.find? here = some .directory := by
  unfold start
  by_cases nul : 0 ∈ p.octets
  · simp [nul]
  by_cases empty : p.octets = []
  · simp [empty]
  by_cases long : maxPath < p.octets.length
  · simp [nul, empty, long, Nat.not_le.mpr long]
  by_cases absolute : p.isAbsolute = true
  · simp only [List.contains_eq_mem, nul, decide_false, Bool.false_eq_true, if_false, empty, long,
      absolute, if_true, Except.ok.injEq, not_false_eq_true, ne_eq, Nat.not_lt.mp long, true_and]
    exact ⟨fun same => same ▸ ⟨rfl, fs.find?_root⟩, fun same => same.1.symm⟩
  · simp only [List.contains_eq_mem, nul, decide_false, Bool.false_eq_true, if_false, empty, long,
      absolute, not_false_eq_true, ne_eq, Nat.not_lt.mp long, true_and]
    split
    · next there =>
      simp only [Except.ok.injEq]
      exact ⟨fun same => same ▸ ⟨rfl, there⟩, fun same => same.1.symm⟩
    · next missing =>
      simp only [false_iff, reduceCtorEq]
      rintro ⟨rfl, there⟩
      exact missing there

/-- The empty path leads nowhere. -/
theorem octets_ne_nil_of_resolve {fs : FileSystem} {p : FilePath} {found : Location × Entry}
    (h : fs.resolve p = .ok found) : p.octets ≠ [] := by
  unfold resolve at h
  cases begun : fs.start p with
  | error fault => rw [begun] at h; cases h
  | ok here => exact (start_eq_ok_iff.mp begun).1.2.1

theorem start_of_keeps {fs gs : FileSystem} (cwd : gs.cwd = fs.cwd)
    (keeps : ∀ place, fs.find? place = some .directory → gs.find? place = some .directory)
    {p : FilePath} {here : Location} (h : fs.start p = .ok here) : gs.start p = .ok here := by
  rcases start_eq_ok_iff.mp h with ⟨passed, same, there⟩
  exact start_eq_ok_iff.mpr ⟨passed, by rw [cwd, same], keeps _ there⟩

/-- A path leads in `gs` to what it leads to in `fs`, if `gs` keeps the entries of a kind to
which directories, links and what the path leads to belong. -/
theorem resolve_of_keeps {fs gs : FileSystem} (kept : Entry → Prop) (cwd : gs.cwd = fs.cwd)
    (directory : kept .directory) (link : ∀ target, kept (.link target))
    (keeps : ∀ place entry, kept entry → fs.find? place = some entry → gs.find? place = some entry)
    {p : FilePath} {place : Location} {entry : Entry} (last : kept entry)
    (h : fs.resolve p = .ok (place, entry)) : gs.resolve p = .ok (place, entry) := by
  unfold resolve at h ⊢
  cases begun : fs.start p with
  | error fault => rw [begun] at h; cases h
  | ok here =>
    rw [begun] at h
    rw [start_of_keeps cwd (fun l => keeps l _ directory) begun]
    exact walk_of_keeps kept directory link keeps last h

/-! ## File systems that grow -/

/-- `after` has every entry that `before` has. -/
structure GrowsTo (before after : FileSystem) : Prop where
  cwd : after.cwd = before.cwd
  keeps : ∀ place entry, before.find? place = some entry → after.find? place = some entry

theorem GrowsTo.refl (fs : FileSystem) : fs.GrowsTo fs :=
  ⟨rfl, fun _ _ there => there⟩

theorem GrowsTo.trans {first second third : FileSystem} (left : first.GrowsTo second)
    (right : second.GrowsTo third) : first.GrowsTo third :=
  ⟨right.cwd.trans left.cwd, fun place entry there =>
    right.keeps place entry (left.keeps place entry there)⟩

/-- What a path leads to stays where it is when a file system grows. -/
theorem GrowsTo.resolve {before after : FileSystem} (grown : before.GrowsTo after) {p : FilePath}
    {place : Location} {entry : Entry} (h : before.resolve p = .ok (place, entry)) :
    after.resolve p = .ok (place, entry) :=
  resolve_of_keeps (fun _ => True) grown.cwd trivial (fun _ => trivial)
    (fun place entry _ => grown.keeps place entry) trivial h

/-! ## Walks that stay beneath a directory -/

/-- Nothing beneath a location is a link. -/
def LinkFreeBeneath (fs : FileSystem) (home : Location) : Prop :=
  ∀ place target, home <:+ place → fs.find? place ≠ some (.link target)

/-- Without links and steps upwards a walk stays beneath where it starts. -/
theorem beneath_of_walk {fs : FileSystem} {home : Location} (free : fs.LinkFreeBeneath home)
    {links : Nat} {here place : Location} {steps : List Bytes} {strict : Bool} {entry : Entry}
    (start : home <:+ here) (down : ∀ step ∈ steps, isUp step = false)
    (h : fs.walk links here steps strict = .ok (place, entry)) : home <:+ place := by
  fun_induction fs.walk links here steps strict with
  | case1 => cases h; exact start
  | case2 links here strict step rest isHere ih =>
    exact ih start (fun step member => down step (List.mem_cons_of_mem _ member)) h
  | case3 links here strict step rest notHere isUp ih =>
    rw [down step (List.mem_cons_self ..)] at isUp
    cases isUp
  | case6 links here strict step rest notHere notUp short found ih =>
    exact ih (start.trans (List.suffix_cons ..))
      (fun step member => down step (List.mem_cons_of_mem _ member)) h
  | case7 links here strict step rest notHere notUp short content found ends =>
    cases h
    exact start.trans (List.suffix_cons ..)
  | case10 here strict step rest notHere notUp short target found links ih =>
    exact absurd found (free _ _ (start.trans (List.suffix_cons ..)))
  | _ => cases h

end Intake.FileSystem
