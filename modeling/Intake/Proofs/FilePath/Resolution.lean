import Intake.Destination
import Intake.Proofs.FilePath.Joining
import Intake.Proofs.Text.Utf8
import Mathlib.Data.List.DropRight

/-!
# What destinations stand for

Every destination that can be resolved stands for a name in some directory
(`exists_join_of_resolve`). A name that the client gave its file is the last segment of what it
said, and an override is the names among its parts; behind a base directory each adds its own names
and nothing else.

* `ownSegment_ownSegment`: the segment of a file name that counts is its own segment.
* `clientFileName_eq_ok_iff`, `containedPath_eq_ok_iff`: which names are taken, and as what.
* `components_join`: what a path put behind another one adds to its parts.
* `resolve_contained`: when each destination can be resolved, and what it then stands for.
-/

namespace Intake

/-! ## Names -/

namespace FilePath

/-- Octets that stand for the name of an entry. -/
structure IsName (name : Bytes) : Prop where
  plain : Bytes.slash ∉ name
  stands : component? name = some (.name name)

variable {name : Bytes}

theorem component?_eq_name_iff :
    component? name = some (.name name) ↔
      name ≠ [] ∧ name ≠ [Bytes.dot] ∧ name ≠ [Bytes.dot, Bytes.dot] := by
  unfold component?
  by_cases nothing : name = [] ∨ name = [Bytes.dot]
  · rw [if_pos nothing]
    refine iff_of_false nofun fun distinct => ?_
    exact nothing.elim distinct.1 distinct.2.1
  · rw [if_neg nothing]
    rw [not_or] at nothing
    by_cases up : name = [Bytes.dot, Bytes.dot]
    · rw [if_pos up]
      exact iff_of_false nofun fun distinct => distinct.2.2 up
    · rw [if_neg up]
      exact iff_of_true rfl ⟨nothing.1, nothing.2, up⟩

theorem IsName.nonempty (named : IsName name) : name ≠ [] :=
  (component?_eq_name_iff.mp named.stands).1

/-- A name is not a step that goes nowhere or up. -/
theorem IsName.notDots (named : IsName name) :
    FileSystem.isHere name = false ∧ FileSystem.isUp name = false := by
  obtain ⟨-, notHere, notUp⟩ := component?_eq_name_iff.mp named.stands
  exact ⟨beq_eq_false_iff_ne.mpr notHere, beq_eq_false_iff_ne.mpr notUp⟩

theorem IsName.relative (named : IsName name) : (FilePath.mk name).isAbsolute = false :=
  isAbsolute_name named.plain

theorem IsName.steps (named : IsName name) : (FilePath.mk name).steps = [name] :=
  steps_name named.nonempty named.plain

theorem IsName.endsInSlash (named : IsName name) : (FilePath.mk name).endsInSlash = false := by
  rw [FilePath.endsInSlash, beq_eq_false_iff_ne]
  intro slash
  exact named.plain (List.mem_of_getLast? slash)

/-! ## Parts of joined paths -/

/-- A relative path has nothing in front of its names unless it begins with `.`. -/
theorem start_eq_nil {p : FilePath} (relative : p.isAbsolute = false)
    (plain : ∀ step ∈ p.steps, step ≠ [Bytes.dot]) : p.start = [] := by
  rw [start, relative, if_neg Bool.false_ne_true, if_neg]
  intro first
  have inside : [Bytes.dot] ∈ segments p.octets := List.mem_of_mem_head? first
  have step : [Bytes.dot] ∈ p.steps := List.mem_filter.mpr ⟨inside, by decide⟩
  exact plain _ step rfl

/-- A path that begins with a name adds its parts to those of the path it is put behind. -/
theorem components_join (base : FilePath) {tail : FilePath} (relative : tail.isAbsolute = false)
    (plain : tail.start = []) : (base.join tail).components = base.components ++ tail.components := by
  by_cases empty : base.octets = []
  · have nothing : base.components = [] := by
      rw [components, start, isAbsolute, empty]
      rfl
    have octets : (base.join tail).octets = tail.octets := by
      rw [octets_join base relative, gap, if_pos (.inl empty), empty]
      rfl
    have itself : base.join tail = tail := congrArg FilePath.mk octets
    rw [itself, nothing, List.nil_append]
  · rw [components_eq, components_eq, components_eq tail, start_join relative empty,
      steps_join base relative, List.filterMap_append, plain, List.nil_append, List.append_assoc]

/-- Names joined into a path are its components. -/
theorem components_ofNames {names : List Bytes} (named : ∀ name ∈ names, IsName name) :
    (ofNames names).components = names.map .name ∧ (ofNames names).start = [] ∧
      (ofNames names).isAbsolute = false := by
  obtain ⟨steps, relative⟩ :=
    steps_ofNames fun name member => ⟨(named name member).nonempty, (named name member).plain⟩
  have begins : (ofNames names).start = [] := by
    refine start_eq_nil relative fun step member => ?_
    rw [steps] at member
    exact (component?_eq_name_iff.mp (named step member).stands).2.1
  refine ⟨?_, begins, relative⟩
  rw [components_eq, begins, steps, List.nil_append, ← List.filterMap_eq_map]
  exact List.filterMap_congr fun name member => (named name member).stands

theorem IsName.start (named : IsName name) : (FilePath.mk name).start = [] := by
  refine start_eq_nil named.relative fun step member => ?_
  rw [named.steps, List.mem_singleton] at member
  rw [member]
  exact (component?_eq_name_iff.mp named.stands).2.1

theorem components_name (named : IsName name) :
    (FilePath.mk name).components = [.name name] := by
  rw [components_eq, named.start, named.steps]
  simp [named.stands]

/-- Of octets without a slash only a name is read as one name. -/
theorem isName_of_components {octets : Bytes} (plain : Bytes.slash ∉ octets)
    (single : (FilePath.mk octets).components = [.name name]) : IsName octets := by
  have inside : .name name ∈ (FilePath.mk octets).components :=
    single ▸ List.mem_singleton.mpr rfl
  obtain ⟨member, -, stands⟩ := mem_steps_of_name inside
  have whole : name = octets := by
    have segment := (List.mem_filter.mp member).1
    rwa [segments, Bytes.splitAll_of_not_mem plain, List.mem_singleton] at segment
  exact ⟨plain, whole ▸ stands⟩

/-- What a name puts behind a path. -/
theorem endsIn_join (named : IsName name) (dir : FilePath) :
    (dir.join ⟨name⟩).endsInSlash = false ∧ (dir.join ⟨name⟩).steps = dir.steps ++ [name] ∧
      (dir.join ⟨name⟩).components = dir.components ++ [.name name] := by
  refine ⟨?_, ?_, ?_⟩
  · rw [endsInSlash_join dir named.relative named.nonempty, named.endsInSlash]
  · rw [steps_join dir named.relative, named.steps]
  · rw [components_join dir named.relative named.start, components_name named]

end FilePath

/-! ## Segments of file names -/

theorem Bytes.ofString_injective {s t : String} (same : ofString s = ofString t) : s = t := by
  rw [← Utf8.decodeLossy_ofString s, same, Utf8.decodeLossy_ofString]

theorem Bytes.slash_not_mem_ofString {s : String} (plain : '/' ∉ s.toList) :
    slash ∉ ofString s := by
  intro member
  obtain ⟨c, inside, octet⟩ := List.mem_flatMap.mp member
  exact slash_not_mem_encode (fun same => plain (same ▸ inside)) octet

/-- A text without slashes is a name unless it is empty, `.` or `..`. -/
theorem FilePath.isName_ofString_iff {s : String} (plain : '/' ∉ s.toList) :
    IsName (Bytes.ofString s) ↔ s ≠ "" ∧ s ≠ "." ∧ s ≠ ".." := by
  have spelled (t : String) : Bytes.ofString s ≠ Bytes.ofString t ↔ s ≠ t :=
    not_congr ⟨Bytes.ofString_injective, congrArg Bytes.ofString⟩
  have distinct : component? (Bytes.ofString s) = some (.name (Bytes.ofString s)) ↔ _ :=
    component?_eq_name_iff
  constructor
  · intro named
    obtain ⟨nonempty, notHere, notUp⟩ := distinct.mp named.stands
    exact ⟨(spelled "").mp nonempty, (spelled ".").mp notHere, (spelled "..").mp notUp⟩
  · rintro ⟨nonempty, notHere, notUp⟩
    exact ⟨Bytes.slash_not_mem_ofString plain, distinct.mpr
      ⟨(spelled "").mpr nonempty, (spelled ".").mpr notHere, (spelled "..").mpr notUp⟩⟩

namespace Text

theorem mem_of_mem_trimChars {c : Char} {cs : List Char} (member : c ∈ trimChars cs) : c ∈ cs :=
  List.dropWhile_subset _ ((List.rdropWhile_prefix isBlank _).subset member)

/-- No blanks are left around what was trimmed. -/
theorem trimChars_trimChars (cs : List Char) : trimChars (trimChars cs) = trimChars cs := by
  have short : trimChars cs <+: cs.dropWhile isBlank := List.rdropWhile_prefix isBlank _
  have first : (trimChars cs).dropWhile isBlank = trimChars cs := by
    cases trimmed : trimChars cs with
    | nil => rfl
    | cons c rest =>
      obtain ⟨more, whole⟩ := short
      have solid := List.head?_dropWhile_not isBlank cs
      rw [← whole, trimmed] at solid
      exact List.dropWhile_cons_of_neg (Bool.eq_false_iff.mp solid)
  change ((trimChars cs).dropWhile isBlank).rdropWhile isBlank = _
  rw [first]
  exact List.rdropWhile_idempotent isBlank _

end Text

namespace Destination

open FilePath

/-- What separates the segments of a file name. -/
def isSeparator (c : Char) : Bool :=
  c == '/' || c == '\\'

/-- The segment of a file name that counts: the last one, without the blanks around it. -/
def ownSegment (filename : String) : String :=
  Text.trim (String.ofList ((filename.toList.splitOnP isSeparator).getLastD []))

theorem lastSegment_eq_rtakeWhile (cs : List Char) :
    lastSegment cs = cs.rtakeWhile fun c => !isSeparator c := by
  have same : (fun c => c != '/' && c != '\\') = fun c => !isSeparator c := by
    funext c
    rw [isSeparator, Bool.not_or]
    rfl
  rw [lastSegment, same, List.rtakeWhile]

theorem not_isSeparator_of_mem_lastSegment {c : Char} {cs : List Char}
    (member : c ∈ lastSegment cs) : isSeparator c = false := by
  rw [lastSegment_eq_rtakeWhile] at member
  simpa using List.mem_rtakeWhile_imp member

/-- Without separators there is one segment. -/
theorem lastSegment_of_plain {cs : List Char} (plain : ∀ c ∈ cs, isSeparator c = false) :
    lastSegment cs = cs := by
  rw [lastSegment_eq_rtakeWhile, List.rtakeWhile_eq_self_iff]
  intro c member
  simp [plain c member]

/-- What stands behind the last separator is the last segment. -/
theorem getLastD_splitOnP (cs : List Char) :
    (cs.splitOnP isSeparator).getLastD [] = lastSegment cs := by
  have alone : (lastSegment cs).splitOnP isSeparator = [lastSegment cs] :=
    List.splitOnP_eq_singleton fun c => not_isSeparator_of_mem_lastSegment
  have whole : cs.rdropWhile (fun c => !isSeparator c) ++ lastSegment cs = cs := by
    rw [lastSegment_eq_rtakeWhile, List.rdropWhile_append_rtakeWhile]
  rcases List.eq_nil_or_concat (cs.rdropWhile fun c => !isSeparator c) with
    none_ | ⟨front, separator, behind⟩
  · rw [none_, List.nil_append] at whole
    rw [whole] at alone
    rw [alone, whole]
    rfl
  · have separates : isSeparator separator = true := by
      have nonempty : cs.rdropWhile (fun c => !isSeparator c) ≠ [] := by simp [behind]
      have last := List.rdropWhile_last_not _ cs nonempty
      simpa [behind] using last
    rw [behind, List.concat_eq_append, List.append_assoc, List.singleton_append] at whole
    rw [← congrArg (List.splitOnP isSeparator) whole, List.splitOnP_append_cons _ _ separates,
      alone, List.getLastD_concat]

theorem ownSegment_eq (filename : String) :
    ownSegment filename = String.ofList (Text.trimChars (lastSegment filename.toList)) := by
  rw [ownSegment, getLastD_splitOnP, Text.trim, String.toList_ofList]

theorem not_isSeparator_of_mem_ownSegment {c : Char} {filename : String}
    (member : c ∈ (ownSegment filename).toList) : isSeparator c = false := by
  rw [ownSegment_eq, String.toList_ofList] at member
  exact not_isSeparator_of_mem_lastSegment (Text.mem_of_mem_trimChars member)

/-- The segment that counts is its own segment. -/
theorem ownSegment_ownSegment (filename : String) :
    ownSegment (ownSegment filename) = ownSegment filename := by
  have alone := lastSegment_of_plain fun c (member : c ∈ (ownSegment filename).toList) =>
    not_isSeparator_of_mem_ownSegment member
  rw [ownSegment_eq (ownSegment filename), alone, ownSegment_eq, String.toList_ofList,
    Text.trimChars_trimChars]

theorem slash_not_mem_ownSegment (filename : String) : '/' ∉ (ownSegment filename).toList :=
  fun member => absurd (not_isSeparator_of_mem_ownSegment member) (by decide)

theorem backslash_not_mem_ownSegment (filename : String) : '\\' ∉ (ownSegment filename).toList :=
  fun member => absurd (not_isSeparator_of_mem_ownSegment member) (by decide)

/-! ## Names that are taken -/

/-- The client's name for a file is taken if its segment is a name, and then it is that name. -/
theorem clientFileName_eq_ok_iff {filename : String} {tail : FilePath} :
    clientFileName filename = .ok tail ↔
      IsName (Bytes.ofString (ownSegment filename)) ∧ tail = .ofString (ownSegment filename) := by
  unfold clientFileName
  rw [← ownSegment_eq]
  dsimp only
  constructor
  · intro taken
    split at taken
    · next name single =>
      have plain := Bytes.slash_not_mem_ofString (slash_not_mem_ownSegment filename)
      exact ⟨isName_of_components plain single, (Except.ok.inj taken).symm⟩
    · cases taken
  · rintro ⟨named, rfl⟩
    have single : (FilePath.ofString (ownSegment filename)).components = [.name _] :=
      components_name named
    rw [single]

theorem mem_names_iff {components : List Component} {name : Bytes} :
    name ∈ names components ↔ .name name ∈ components := by
  constructor
  · intro member
    obtain ⟨component, inside, given⟩ := List.mem_filterMap.mp member
    cases component with
    | name octets => cases given; exact inside
    | _ => cases given
  · exact fun inside => List.mem_filterMap.mpr ⟨_, inside, rfl⟩

/-- The names among the parts of a path are names. -/
theorem isName_of_mem_names {p : FilePath} {name : Bytes} (member : name ∈ names p.components) :
    IsName name := by
  obtain ⟨step, -, stands⟩ := mem_steps_of_name (mem_names_iff.mp member)
  exact ⟨(mem_steps step).2, stands⟩

/-- An override is taken if it has no `..` and a name among its parts, and then it is these
names. -/
theorem containedPath_eq_ok_iff {target : String} {tail : FilePath} :
    containedPath target = .ok tail ↔
      .up ∉ (FilePath.ofString target).components ∧
        names (FilePath.ofString target).components ≠ [] ∧
        tail = .ofNames (names (FilePath.ofString target).components) := by
  unfold containedPath
  dsimp only
  by_cases climbs : .up ∈ (FilePath.ofString target).components
  · rw [if_pos (List.contains_iff_mem.mpr climbs)]
    exact iff_of_false nofun fun down => down.1 climbs
  · rw [if_neg (by simpa using climbs)]
    by_cases nothing : names (FilePath.ofString target).components = []
    · rw [if_pos nothing]
      exact iff_of_false nofun fun down => down.2.1 nothing
    · rw [if_neg nothing]
      simp [climbs, nothing, eq_comm]

/-- The names among parts are the parts that are names. -/
theorem map_names (components : List Component) :
    (names components).map .name = components.filter Component.isName := by
  induction components with
  | nil => rfl
  | cons component components ih =>
    cases component with
    | name octets => exact congrArg (Component.name octets :: ·) ih
    | _ => exact ih

theorem names_ne_nil_iff {components : List Component} :
    names components ≠ [] ↔ ∃ name, .name name ∈ components := by
  constructor
  · intro nonempty
    obtain ⟨name, member⟩ := List.exists_mem_of_ne_nil _ nonempty
    exact ⟨name, mem_names_iff.mp member⟩
  · rintro ⟨name, inside⟩
    exact List.ne_nil_of_mem (mem_names_iff.mpr inside)

/-! ## Destinations -/

variable {base path : FilePath} {filename : String}

theorem resolve_ownName_eq_ok_iff :
    ownName.resolve base filename = .ok path ↔
      IsName (Bytes.ofString (ownSegment filename)) ∧
        path = base.join (.ofString (ownSegment filename)) := by
  rw [resolve]
  cases taken : clientFileName filename with
  | error failure =>
    refine iff_of_false nofun fun named => ?_
    rw [clientFileName_eq_ok_iff.mpr ⟨named.1, rfl⟩] at taken
    cases taken
  | ok tail =>
    obtain ⟨named, rfl⟩ := clientFileName_eq_ok_iff.mp taken
    simp [Except.map, named, eq_comm]

theorem resolve_renamed_eq_ok_iff {name : String} (nonempty : name ≠ "") :
    (renamed name).resolve base filename = .ok path ↔
      .up ∉ (FilePath.ofString name).components ∧
        names (FilePath.ofString name).components ≠ [] ∧
        path = base.join (.ofNames (names (FilePath.ofString name).components)) := by
  rw [resolve, if_neg nonempty]
  cases taken : containedPath name with
  | error failure =>
    refine iff_of_false nofun fun down => ?_
    rw [containedPath_eq_ok_iff.mpr ⟨down.1, down.2.1, rfl⟩] at taken
    cases taken
  | ok tail =>
    obtain ⟨down, named, rfl⟩ := containedPath_eq_ok_iff.mp taken
    simp [Except.map, down, named, eq_comm]

/-- In a directory a save lands under the name that it has without one. -/
theorem resolve_inDirectory (base directory : FilePath) (filename : String) :
    (inDirectory directory).resolve base filename =
      (ownName.resolve base filename).map fun _ =>
        (if directory.isAbsolute then directory else base.join directory).join
          (.ofString (ownSegment filename)) := by
  rw [resolve, resolve]
  cases taken : clientFileName filename with
  | error failure => simp only [Except.map]
  | ok tail =>
    obtain ⟨named, rfl⟩ := clientFileName_eq_ok_iff.mp taken
    simp only [Except.map, apply_ite (FilePath.join · (.ofString (ownSegment filename)))]

/-- A destination that can be resolved stands for a name in some directory. -/
theorem exists_join_of_resolve {destination : Destination}
    (resolved : destination.resolve base filename = .ok path) :
    ∃ (dir : FilePath) (name : Bytes), IsName name ∧ path = dir.join ⟨name⟩ := by
  have own : ∀ path, ownName.resolve base filename = .ok path →
      IsName (Bytes.ofString (ownSegment filename)) ∧
        path = base.join ⟨Bytes.ofString (ownSegment filename)⟩ :=
    fun path resolved => resolve_ownName_eq_ok_iff.mp resolved
  cases destination with
  | ownName => exact ⟨base, _, own path resolved⟩
  | renamed name =>
    by_cases empty : name = ""
    · rw [resolve, if_pos empty] at resolved
      exact ⟨base, _, own path resolved⟩
    · obtain ⟨-, some_, rfl⟩ := (resolve_renamed_eq_ok_iff empty).mp resolved
      obtain ⟨front, last, parts⟩ : ∃ front last,
          names (FilePath.ofString name).components = front ++ [last] :=
        ⟨_, _, (List.dropLast_concat_getLast some_).symm⟩
      have named : ∀ part ∈ front ++ [last], IsName part :=
        parts ▸ fun part => isName_of_mem_names
      have lastNamed := named last (by simp)
      have frontNamed : ∀ part ∈ front, IsName part :=
        fun part member => named part (List.mem_append_left _ member)
      refine ⟨base.join (.ofNames front), last, lastNamed, ?_⟩
      rw [parts, join_join base (components_ofNames frontNamed).2.2 lastNamed.relative, ofNames,
        List.foldl_concat]
      rfl
  | inDirectory directory =>
    rw [resolve_inDirectory] at resolved
    cases taken : ownName.resolve base filename with
    | error failure => simp only [taken, Except.map, reduceCtorEq] at resolved
    | ok other =>
      simp only [taken, Except.map, Except.ok.injEq] at resolved
      exact ⟨_, _, (own other taken).1, resolved.symm⟩

theorem clientFileName_eq_error {failure : Failure}
    (failed : clientFileName filename = .error failure) :
    ∃ message, failure = .invalidDestination message := by
  unfold clientFileName at failed
  dsimp only at failed
  split at failed
  · exact absurd failed nofun
  · exact ⟨_, (Except.error.inj failed).symm⟩

theorem containedPath_eq_error {target : String} {failure : Failure}
    (failed : containedPath target = .error failure) :
    ∃ message, failure = .invalidDestination message := by
  unfold containedPath at failed
  dsimp only at failed
  split at failed
  · exact ⟨_, (Except.error.inj failed).symm⟩
  · split at failed
    · exact ⟨_, (Except.error.inj failed).symm⟩
    · exact absurd failed nofun

/-- A destination that cannot be resolved is invalid. -/
theorem resolve_eq_error {destination : Destination} {failure : Failure}
    (failed : destination.resolve base filename = .error failure) :
    ∃ message, failure = .invalidDestination message := by
  have ofMap {tail : Except Failure FilePath} {f : FilePath → FilePath}
      (failed : tail.map f = .error failure) : tail = .error failure := by
    cases tail with
    | error other => exact failed
    | ok path => exact absurd failed nofun
  cases destination with
  | ownName =>
    rw [resolve] at failed
    exact clientFileName_eq_error (ofMap failed)
  | inDirectory directory =>
    rw [resolve] at failed
    exact clientFileName_eq_error (ofMap failed)
  | renamed name =>
    rw [resolve] at failed
    split at failed
    · exact clientFileName_eq_error (ofMap failed)
    · exact containedPath_eq_error (ofMap failed)

/-- A save under the client's name is possible if the segment that counts is a name. -/
theorem exists_resolve_ownName_iff :
    (∃ path, ownName.resolve base filename = .ok path) ↔
      ownSegment filename ∉ ["", ".", ".."] := by
  have named := isName_ofString_iff (slash_not_mem_ownSegment filename)
  simp only [resolve_ownName_eq_ok_iff, exists_and_left, exists_eq, and_true, named, List.mem_cons,
    List.not_mem_nil, or_false, not_or]

/-- Under the client's name a save lands at the segment that counts, in the base directory. -/
theorem components_of_ownName (resolved : ownName.resolve base filename = .ok path) :
    path.components = base.components ++ [.name (Bytes.ofString (ownSegment filename))] := by
  obtain ⟨named, lies⟩ := resolve_ownName_eq_ok_iff.mp resolved
  rw [lies]
  exact (endsIn_join named base).2.2

/-- A save under another name is possible if that has no `..` and a name among its parts. -/
theorem exists_resolve_renamed_iff {name : String} (nonempty : name ≠ "") :
    (∃ path, (renamed name).resolve base filename = .ok path) ↔
      .up ∉ (FilePath.ofString name).components ∧
        ∃ part, .name part ∈ (FilePath.ofString name).components := by
  simp only [resolve_renamed_eq_ok_iff nonempty, exists_and_left, exists_eq, and_true,
    names_ne_nil_iff]

/-- Under another name a save lands at the names among its parts, in the base directory. -/
theorem components_of_renamed {name : String} (nonempty : name ≠ "")
    (resolved : (renamed name).resolve base filename = .ok path) :
    path.components =
      base.components ++ (FilePath.ofString name).components.filter Component.isName := by
  obtain ⟨-, -, rfl⟩ := (resolve_renamed_eq_ok_iff nonempty).mp resolved
  obtain ⟨components, begins, relative⟩ :=
    components_ofNames fun part (member : part ∈ names (FilePath.ofString name).components) =>
      isName_of_mem_names member
  rw [components_join base relative begins, components, map_names]

/-- Destinations stand for what they should. A save under the client's name is possible just if the
trimmed last segment of that is a name, and lands at this name, which has no separator, in the base
directory. A save under another name is possible just if it has no `..` and some name among its
parts, and lands at these names; the empty name stands for the client's. A save in a directory is
possible just if one under the client's name is, and lands at the same name there. Wherever a save
lands, the path ends in a name. -/
theorem resolve_contained (base : FilePath) (filename : String) :
    ((∃ path, ownName.resolve base filename = .ok path) ↔
      ownSegment filename ∉ ["", ".", ".."]) ∧
    (∀ path, ownName.resolve base filename = .ok path →
      path.components =
          base.components ++ [.name (Bytes.ofString (ownSegment filename))] ∧
        '/' ∉ (ownSegment filename).toList ∧ '\\' ∉ (ownSegment filename).toList ∧
        ownName.resolve base (ownSegment filename) = .ok path) ∧
    (∀ name, name ≠ "" →
      ((∃ path, (renamed name).resolve base filename = .ok path) ↔
        .up ∉ (FilePath.ofString name).components ∧
          ∃ part, .name part ∈ (FilePath.ofString name).components) ∧
      ∀ path, (renamed name).resolve base filename = .ok path →
        path.components =
          base.components ++ (FilePath.ofString name).components.filter Component.isName) ∧
    (renamed "").resolve base filename = ownName.resolve base filename ∧
    (∀ directory,
      ((∃ path, (inDirectory directory).resolve base filename = .ok path) ↔
        ∃ path, ownName.resolve base filename = .ok path) ∧
      ∀ path, ownName.resolve base filename = .ok path →
        ∃ name, path.components.getLast? = some (.name name) ∧
          (inDirectory directory).resolve base filename =
            .ok ((if directory.isAbsolute then directory else base.join directory).join ⟨name⟩)) ∧
    ∀ destination path, Destination.resolve destination base filename = .ok path →
      path.endsInSlash = false ∧
        ∃ name, path.components.getLast? = some (.name name) ∧ path.steps.getLast? = some name := by
  refine ⟨exists_resolve_ownName_iff, ?_, ?_, rfl, ?_, ?_⟩
  · intro path resolved
    refine ⟨components_of_ownName resolved, slash_not_mem_ownSegment filename,
      backslash_not_mem_ownSegment filename, ?_⟩
    rw [resolve_ownName_eq_ok_iff, ownSegment_ownSegment]
    exact resolve_ownName_eq_ok_iff.mp resolved
  · exact fun name nonempty => ⟨exists_resolve_renamed_iff nonempty,
      fun path => components_of_renamed nonempty⟩
  · intro directory
    rw [resolve_inDirectory]
    refine ⟨?_, fun path resolved => ⟨Bytes.ofString (ownSegment filename), ?_, ?_⟩⟩
    · cases ownName.resolve base filename with
      | error failure => simp only [Except.map, reduceCtorEq, exists_false]
      | ok other => simp only [Except.map, Except.ok.injEq, exists_eq']
    · rw [components_of_ownName resolved, List.getLast?_concat]
    · rw [resolved]
      simp only [Except.map, FilePath.ofString]
  · intro destination path resolved
    obtain ⟨dir, name, named, rfl⟩ := exists_join_of_resolve resolved
    obtain ⟨open_, steps, components⟩ := endsIn_join named dir
    refine ⟨open_, name, ?_, ?_⟩
    · rw [components, List.getLast?_concat]
    · rw [steps, List.getLast?_concat]

/-- A path that a client gives for its file, with separators of both kinds and blanks around the
last segment, comes to that segment. -/
theorem resolve_contained_client_path :
    ownName.resolve (.ofString "srv/") "C:\\tmp/ a.txt " = .ok (.ofString "srv/a.txt") ∧
      (FilePath.ofString "srv/a.txt").components =
        (FilePath.ofString "srv/").components ++
          [.name (Bytes.ofString (ownSegment "C:\\tmp/ a.txt "))] ∧
      ownName.resolve (.ofString "srv/") (ownSegment "C:\\tmp/ a.txt ") =
        .ok (.ofString "srv/a.txt") := by
  have resolved : ownName.resolve (.ofString "srv/") "C:\\tmp/ a.txt " =
      .ok (.ofString "srv/a.txt") := by rfl
  obtain ⟨components, -, -, again⟩ := (resolve_contained _ _).2.1 _ resolved
  exact ⟨resolved, components, again⟩

end Destination

end Intake
