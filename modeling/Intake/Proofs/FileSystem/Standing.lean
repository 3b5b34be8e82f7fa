import Intake.Proofs.FilePath.Resolution
import Intake.Proofs.FileSystem.Creation

/-!
# The entries that paths stand for

What stands before the name at the end of a path is a path too, its `directory`. If that leads to a
directory, the path stands for the name there, be there an entry of that name or not (`StandsFor`).

* `parent_join_eq_ok_iff`: looking a name up takes that its path stands for it and can be passed on.
* `createNew_join_cases`: an exclusive create succeeds where the name is free, finds it taken by any
  entry, links that lead nowhere included, and is refused for another reason elsewhere.
* `occupied_of_tryExists`: a path that leads to something stands for a name that is taken.
-/

namespace Intake

namespace FilePath

/-! ## What stands before a name -/

/-- What stands before the name at the end of a path, with the slash that closes it; `.` if there
is nothing. -/
def directory (p : FilePath) : FilePath :=
  let front := p.octets.rdropWhile (· != Bytes.slash)
  if front = [] then ⟨[Bytes.dot]⟩ else ⟨front⟩

/-- A path can be passed on, and the name at its end can be looked up. -/
structure Passable (p : FilePath) (name : Bytes) : Prop where
  plain : 0 ∉ p.octets
  short : p.octets.length ≤ FileSystem.maxPath
  shortName : name.length ≤ FileSystem.maxName

variable {dir : FilePath} {name : Bytes}

/-- Behind what it stands, a name is found by looking for the last slash. -/
theorem rdropWhile_append_name (plain : Bytes.slash ∉ name) {front : Bytes}
    (closed : front = [] ∨ front.getLast? = some Bytes.slash) :
    (front ++ name).rdropWhile (· != Bytes.slash) = front := by
  have dropped : (name.reverse ++ front.reverse).dropWhile (· != Bytes.slash) =
      front.reverse.dropWhile (· != Bytes.slash) := by
    refine List.dropWhile_append_of_pos fun octet member => ?_
    rw [bne_iff_ne]
    rintro rfl
    exact plain (List.mem_reverse.mp member)
  rw [List.rdropWhile, List.reverse_append, dropped]
  rcases closed with rfl | slash
  · rfl
  · obtain ⟨more, rfl⟩ := List.getLast?_eq_some_iff.mp slash
    rw [List.reverse_concat, List.dropWhile_cons_of_neg (by simp), ← List.reverse_concat,
      List.reverse_reverse]

/-- Joined to nothing a path is closed by a slash. -/
theorem endsInSlash_join_nil (nonempty : dir.octets ≠ []) :
    (dir.join ⟨[]⟩).endsInSlash = true := by
  rw [endsInSlash, octets_join dir rfl, List.append_nil, gap, beq_iff_eq]
  split
  · next open_ =>
    rw [List.append_nil]
    exact open_.resolve_left nonempty
  · exact List.getLast?_concat

theorem octets_join_name (named : IsName name) (dir : FilePath) :
    (dir.join ⟨name⟩).octets = (dir.join ⟨[]⟩).octets ++ name := by
  rw [octets_join dir named.relative, octets_join dir rfl, List.append_nil, List.append_assoc]

theorem directory_join (named : IsName name) (dir : FilePath) :
    (dir.join ⟨name⟩).directory = if dir.octets = [] then ⟨[Bytes.dot]⟩ else dir.join ⟨[]⟩ := by
  have octets := octets_join_name named dir
  by_cases empty : dir.octets = []
  · have nothing : (dir.join ⟨[]⟩).octets = [] := by
      rw [octets_join dir rfl, gap, if_pos (.inl empty), empty]
      rfl
    rw [directory, octets, nothing, rdropWhile_append_name named.plain (.inl rfl), if_pos empty]
    exact if_pos rfl
  · have closed := endsInSlash_join_nil empty
    rw [endsInSlash, beq_iff_eq] at closed
    have more : (dir.join ⟨[]⟩).octets ≠ [] := by
      intro nothing
      rw [nothing] at closed
      cases closed
    rw [directory, octets, rdropWhile_append_name named.plain (.inr closed), if_neg empty]
    exact if_neg more

theorem steps_slashes (count : Nat) :
    (FilePath.mk (List.replicate count Bytes.slash)).steps = [] := by
  induction count with
  | zero => rfl
  | succ count ih =>
    rw [steps, segments] at ih ⊢
    have split := Bytes.splitAll_append Bytes.slash [] (List.replicate count Bytes.slash)
    rw [List.nil_append] at split
    rw [List.replicate_succ, split, List.filter_append, ih]
    rfl

end FilePath

namespace FileSystem

open FilePath

variable {fs : FileSystem} {dir : FilePath} {name last : Bytes} {place : Location}

/-- What a path leads to is there. -/
theorem find?_of_resolve {p : FilePath} {entry : Entry} (leads : fs.resolve p = .ok (place, entry)) :
    fs.find? place = some entry := by
  unfold resolve at leads
  cases begun : fs.start p with
  | error fault => rw [begun] at leads; cases leads
  | ok here =>
    rw [begun] at leads
    exact find?_of_walk (start_eq_ok_iff.mp begun).2.2 leads

/-- Slashes lead to the root. -/
theorem resolve_slashes (fs : FileSystem) {count : Nat} (nonempty : count ≠ 0)
    (short : count ≤ maxPath) :
    fs.resolve ⟨List.replicate count Bytes.slash⟩ = .ok ([], .directory) := by
  have plain : (0 : UInt8) ∉ List.replicate count Bytes.slash := fun nul =>
    absurd (List.eq_of_mem_replicate nul) (by decide)
  have absolute : (FilePath.mk (List.replicate count Bytes.slash)).isAbsolute = true := by
    rw [isAbsolute, List.head?_replicate, if_neg nonempty, beq_self_eq_true]
  have begun : fs.start ⟨List.replicate count Bytes.slash⟩ = .ok [] := by
    refine start_eq_ok_iff.mpr ⟨⟨plain, ?_, ?_⟩, ?_, fs.find?_root⟩
    · simpa using nonempty
    · rwa [List.length_replicate]
    · rw [absolute, if_pos rfl]
  rw [resolve, begun, steps_slashes]
  dsimp only
  rw [walk]

/-! ## Names in directories -/

/-- A path stands for a name in a directory, whether there is an entry of that name or not. -/
structure StandsFor (fs : FileSystem) (p : FilePath) (place : Location) (name : Bytes) : Prop where
  leads : fs.resolve p.directory = .ok (place, .directory)
  named : p.fileName = some name

/-- A path stands for one name at most. -/
theorem StandsFor.unique {p : FilePath} {other : Location} (left : fs.StandsFor p place name)
    (right : fs.StandsFor p other last) : place = other ∧ name = last := by
  have same := left.leads.symm.trans right.leads
  simp only [Except.ok.injEq, Prod.mk.injEq, and_true] at same
  exact ⟨same, Option.some.inj (left.named.symm.trans right.named)⟩

theorem fileName_join_name (named : IsName name) (dir : FilePath) :
    (dir.join ⟨name⟩).fileName = some name := by
  rw [fileName, (endsIn_join named dir).2.2, List.getLast?_concat]

/-- The walk along a path that ends in a name starts where that along its directory does. -/
theorem start_join_eq_ok_iff (named : IsName name) {here : Location} :
    fs.start (dir.join ⟨name⟩) = .ok here ↔
      (0 ∉ (dir.join ⟨name⟩).octets ∧ (dir.join ⟨name⟩).octets.length ≤ maxPath) ∧
        fs.start (dir.join ⟨name⟩).directory = .ok here := by
  have nonempty : (dir.join ⟨name⟩).octets ≠ [] := by
    rw [octets_join dir named.relative]
    simp [named.nonempty]
  rw [directory_join named, start_eq_ok_iff, start_eq_ok_iff]
  -- With nothing in front of the name both walks are relative ones, and `.` can always be passed on.
  by_cases empty : dir.octets = []
  · have relative : (dir.join ⟨name⟩).isAbsolute = false := by
      rw [isAbsolute, octets_join dir named.relative, empty, gap, if_pos (.inl empty)]
      exact named.relative
    have dot : (0 ∉ [Bytes.dot] ∧ [Bytes.dot] ≠ [] ∧ [Bytes.dot].length ≤ maxPath) ∧
        (FilePath.mk [Bytes.dot]).isAbsolute = false := by decide
    rw [if_pos empty, relative, dot.2]
    simp only [nonempty, ne_eq, not_false_eq_true, true_and, dot.1]
  · have some_ : (dir.join ⟨[]⟩).octets ≠ [] := by
      rw [octets_join dir rfl]
      simp [empty]
    have passes : 0 ∉ (dir.join ⟨name⟩).octets ∧ (dir.join ⟨name⟩).octets.length ≤ maxPath →
        0 ∉ (dir.join ⟨[]⟩).octets ∧ (dir.join ⟨[]⟩).octets.length ≤ maxPath := by
      rw [octets_join_name named dir, List.mem_append, List.length_append]
      exact fun passes => ⟨fun nul => passes.1 (.inl nul), by omega⟩
    rw [if_neg empty, isAbsolute_join named.relative empty, isAbsolute_join rfl empty]
    simp only [nonempty, some_, ne_eq, not_false_eq_true, true_and]
    constructor
    · rintro ⟨passable, starts⟩
      exact ⟨passable, passes passable, starts⟩
    · rintro ⟨passable, -, starts⟩
      exact ⟨passable, starts⟩

/-- The directory of a path that ends in a name is what the steps in front of the name lead to. -/
theorem resolve_directory_eq_ok_iff (named : IsName name) :
    fs.resolve (dir.join ⟨name⟩).directory = .ok (place, .directory) ↔
      ∃ here, fs.start (dir.join ⟨name⟩).directory = .ok here ∧
        fs.walk maxLinks here dir.steps true = .ok (place, .directory) := by
  have walked (here : Location) : fs.walk maxLinks here (dir.join ⟨name⟩).directory.steps
      (dir.join ⟨name⟩).directory.endsInSlash = fs.walk maxLinks here dir.steps true := by
    rw [directory_join named]
    by_cases empty : dir.octets = []
    · have steps : dir.steps = [] := by simp [steps, segments, empty, Bytes.splitAll]
      have dot : (FilePath.mk [Bytes.dot]).steps = [[Bytes.dot]] := by decide
      rw [if_pos empty, steps, dot]
      simp [walk, isHere]
    · have nothing : (FilePath.mk []).steps = [] := by decide
      rw [if_neg empty, steps_join dir rfl, nothing, List.append_nil, endsInSlash_join_nil empty]
  unfold resolve
  cases begun : fs.start (dir.join ⟨name⟩).directory with
  | error fault => simp
  | ok here => simp [walked]

/-- Looking a name up takes that its path stands for it and can be passed on. -/
theorem parent_join_eq_ok_iff (named : IsName name) :
    fs.parent (dir.join ⟨name⟩) = .ok (place, last) ↔
      fs.StandsFor (dir.join ⟨name⟩) place last ∧ (dir.join ⟨name⟩).Passable last := by
  obtain ⟨open_, steps, -⟩ := endsIn_join named dir
  have fileName := fileName_join_name named dir
  rw [parent_eq_ok_iff]
  constructor
  · rintro ⟨here, before, begun, parts, walked, -, -, -, short⟩
    obtain ⟨rfl, rfl⟩ : dir.steps = before ∧ name = last := by
      simpa using List.append_inj' (steps.symm.trans parts) rfl
    obtain ⟨⟨plain, fits⟩, starts⟩ := (start_join_eq_ok_iff named).mp begun
    exact ⟨⟨(resolve_directory_eq_ok_iff named).mpr ⟨here, starts, walked⟩, fileName⟩,
      plain, fits, short⟩
  · rintro ⟨stands, plain, fits, short⟩
    obtain rfl : name = last := Option.some.inj (fileName.symm.trans stands.named)
    obtain ⟨here, starts, walked⟩ := (resolve_directory_eq_ok_iff named).mp stands.leads
    exact ⟨here, dir.steps, (start_join_eq_ok_iff named).mpr ⟨⟨plain, fits⟩, starts⟩, steps, walked,
      named.notDots.1, named.notDots.2, open_, short⟩

/-! ## Paths that lead to something -/

/-- A path that leads to something stands for a name that can be looked up. -/
theorem parent_of_resolve (named : IsName name) {found : Location × Entry}
    (leads : fs.resolve (dir.join ⟨name⟩) = .ok found) :
    ∃ place, fs.parent (dir.join ⟨name⟩) = .ok (place, name) := by
  obtain ⟨open_, steps, -⟩ := endsIn_join named dir
  have plain := named.notDots
  unfold resolve at leads
  cases begun : fs.start (dir.join ⟨name⟩) with
  | error fault => rw [begun] at leads; cases leads
  | ok here =>
    rw [begun, steps, open_] at leads
    dsimp only at leads
    obtain ⟨place, walked⟩ := directory_of_walk_append leads
    obtain ⟨left, same⟩ := walk_append walked
    -- The walk goes on with the name, and would have stopped at one that is too long.
    have short : name.length ≤ maxName := by
      rw [same, walk, if_neg (by simp [plain.1]), if_neg (by simp [plain.2])] at leads
      by_contra long
      rw [if_pos (Nat.not_le.mp long)] at leads
      cases leads
    exact ⟨place, parent_eq_ok_iff.mpr
      ⟨here, dir.steps, begun, steps, walked, plain.1, plain.2, open_, short⟩⟩

/-- A walk is never refused because something is there. -/
theorem walk_ne_alreadyExists (links : Nat) (here : Location) (steps : List Bytes)
    (strict : Bool) : fs.walk links here steps strict ≠ .error .alreadyExists := by
  fun_induction fs.walk links here steps strict with
  | case2 links here strict step rest isHere ih => exact ih
  | case3 links here strict step rest notHere isUp ih => exact ih
  | case6 links here strict step rest notHere notUp short found ih => exact ih
  | case10 here strict step rest notHere notUp short target found links ih => exact ih
  | _ => simp

theorem start_ne_alreadyExists (p : FilePath) : fs.start p ≠ .error .alreadyExists := by
  unfold start
  split_ifs <;> simp

/-- Looking for the place of a name does not fail because something is there. -/
theorem parent_join_ne_alreadyExists (named : IsName name) :
    fs.parent (dir.join ⟨name⟩) ≠ .error .alreadyExists := by
  obtain ⟨open_, steps, -⟩ := endsIn_join named dir
  intro refused
  unfold parent at refused
  cases begun : fs.start (dir.join ⟨name⟩) with
  | error fault =>
    rw [begun] at refused
    cases refused
    exact start_ne_alreadyExists _ begun
  | ok here =>
    rw [begun, steps, List.getLast?_concat, List.dropLast_concat, open_] at refused
    dsimp only at refused
    cases walked : fs.walk maxLinks here dir.steps true with
    | error fault =>
      rw [walked] at refused
      cases refused
      exact walk_ne_alreadyExists _ _ _ _ walked
    | ok found =>
      rw [walked] at refused
      simp only [named.notDots.1, named.notDots.2, Bool.or_self, Bool.false_eq_true,
        if_false] at refused
      split at refused <;> cases refused

/-! ## Places that are free or taken -/

/-- A path stands for a free name, and can be passed on. -/
def Vacant (fs : FileSystem) (p : FilePath) : Prop :=
  ∃ place name, fs.StandsFor p place name ∧ p.Passable name ∧ fs.find? (name :: place) = none

/-- A path stands for a name under which anything lies, be it a link that leads nowhere, and can be
passed on. -/
def Occupied (fs : FileSystem) (p : FilePath) : Prop :=
  ∃ place name, fs.StandsFor p place name ∧ p.Passable name ∧
    ∃ entry, fs.find? (name :: place) = some entry

theorem not_occupied_of_vacant {p : FilePath} (vacant : fs.Vacant p) : ¬ fs.Occupied p := by
  obtain ⟨place, name, stands, -, free⟩ := vacant
  rintro ⟨other, last, also, -, entry, taken⟩
  obtain ⟨rfl, rfl⟩ := stands.unique also
  rw [free] at taken
  cases taken

/-- A path that leads to something stands for a taken name. -/
theorem occupied_of_tryExists (named : IsName name)
    (there : fs.tryExists (dir.join ⟨name⟩) = .ok true) : fs.Occupied (dir.join ⟨name⟩) := by
  obtain ⟨found, leads⟩ := tryExists_eq_true_iff.mp there
  obtain ⟨place, parent⟩ := parent_of_resolve named leads
  obtain ⟨stands, passable⟩ := (parent_join_eq_ok_iff named).mp parent
  refine ⟨place, name, stands, passable, ?_⟩
  cases lies : fs.find? (name :: place) with
  | some entry => exact ⟨entry, rfl⟩
  | none =>
    rw [resolve_of_free parent lies] at leads
    cases leads

/-- An exclusive create of a name makes a file where that is free, finds something there where it
is taken, and is refused for another reason where it cannot be looked up. -/
theorem createNew_join_cases (fs : FileSystem) (named : IsName name) (dir : FilePath) :
    (fs.Vacant (dir.join ⟨name⟩) ∧
      ∃ place free, fs.StandsFor (dir.join ⟨name⟩) place name ∧
        fs.createNew (dir.join ⟨name⟩) =
          .ok (fs.insert place name (.file []) free, name :: place)) ∨
    (fs.Occupied (dir.join ⟨name⟩) ∧
      fs.createNew (dir.join ⟨name⟩) = .error .alreadyExists) ∨
    (¬ fs.Vacant (dir.join ⟨name⟩) ∧ ¬ fs.Occupied (dir.join ⟨name⟩) ∧
      ∃ fault, fault ≠ .alreadyExists ∧ fs.createNew (dir.join ⟨name⟩) = .error fault) := by
  cases parent : fs.parent (dir.join ⟨name⟩) with
  | error fault =>
    have unreached (place : Location) (last : Bytes)
        (stands : fs.StandsFor (dir.join ⟨name⟩) place last)
        (passable : (dir.join ⟨name⟩).Passable last) : False := by
      rw [(parent_join_eq_ok_iff named).mpr ⟨stands, passable⟩] at parent
      cases parent
    refine .inr (.inr ⟨?_, ?_, fault, ?_, by rw [createNew, parent]⟩)
    · exact fun ⟨place, last, stands, passable, _⟩ => unreached place last stands passable
    · exact fun ⟨place, last, stands, passable, _⟩ => unreached place last stands passable
    · rintro rfl
      exact parent_join_ne_alreadyExists named parent
  | ok found =>
    obtain ⟨place, last⟩ := found
    obtain ⟨stands, passable⟩ := (parent_join_eq_ok_iff named).mp parent
    obtain rfl : name = last :=
      Option.some.inj ((fileName_join_name named dir).symm.trans stands.named)
    cases lies : fs.find? (name :: place) with
    | none =>
      have above : fs.find? place = some .directory := find?_of_resolve stands.leads
      refine .inl ⟨⟨place, name, stands, passable, lies⟩, place, ⟨above, lies⟩, stands, ?_⟩
      rw [createNew, parent]
      exact dif_pos ⟨above, lies⟩
    | some entry =>
      refine .inr (.inl ⟨⟨place, name, stands, passable, entry, lies⟩, ?_⟩)
      rw [createNew, parent]
      exact dif_neg (by simp [lies])

end FileSystem

end Intake
