import Intake.Proofs.FilePath.Resolution
import Intake.Proofs.Http.Ceiling

/-!
# Targets that requests name

A request may name where its upload is to be saved. The service accepts a value all of whose parts
are names (`FilePath.Plain`), and the upload is then saved where its destination stands for. A plain
value adds just its own parts to the script directory, so the check that the path lies within the
script directory never refuses what the first check accepted.

* `Plain.refused_cases`: what is wrong with a value that is not plain.
* `components_of_inDirectory`: what a plain directory adds to the script directory.
* `contained_eq_map`: the check of a path refuses nothing but what cannot be resolved.
* `handle_of_refused`: a request that names a refused value is answered 400 and changes nothing.
* `targets_agree`: both checks and the resolution, for every value.
-/

namespace Intake

/-! ## Plain paths -/

namespace FilePath

/-- All parts of a path are names. -/
def Plain (p : FilePath) : Prop :=
  ∀ component ∈ p.components, component.isName = true

variable {p base : FilePath}

theorem mem_start_cases {component : Component} (member : component ∈ p.start) :
    p.start = [component] ∧ (component = .root ∨ component = .here) := by
  unfold start at member ⊢
  split at member
  · next absolute =>
    obtain rfl := List.mem_singleton.mp member
    exact ⟨if_pos absolute, .inl rfl⟩
  · next relative =>
    split at member
    · next dotted =>
      obtain rfl := List.mem_singleton.mp member
      rw [if_neg relative, if_pos dotted]
      exact ⟨rfl, .inr rfl⟩
    · cases member

/-- A plain path has nothing in front of its names. -/
theorem Plain.start (plain : p.Plain) : p.start = [] := by
  cases begun : p.start with
  | nil => rfl
  | cons component more =>
    have member : component ∈ p.start := begun ▸ List.mem_cons_self ..
    have named := plain component (List.mem_append_left _ member)
    rcases (mem_start_cases member).2 with rfl | rfl <;> cases named

theorem Plain.relative (plain : p.Plain) : p.isAbsolute = false := by
  apply Bool.eq_false_iff.mpr
  intro absolute
  have begun := plain.start
  rw [FilePath.start, if_pos absolute] at begun
  cases begun

/-- A plain path is its names. -/
theorem Plain.components_eq (plain : p.Plain) :
    p.components = (Destination.names p.components).map .name := by
  rw [Destination.map_names, List.filter_eq_self.mpr plain]

/-- A path that is not plain has a root or a `.` in front, or it goes up somewhere. -/
theorem Plain.refused_cases (refused : ¬ p.Plain) :
    p.components.head? = some .root ∨ p.components.head? = some .here ∨ .up ∈ p.components := by
  unfold Plain at refused
  simp only [not_forall] at refused
  obtain ⟨component, member, other⟩ := refused
  rcases List.mem_append.mp member with front | behind
  · obtain ⟨begun, kind⟩ := mem_start_cases front
    have first : p.components.head? = some component := by
      rw [components, begun]
      rfl
    rcases kind with rfl | rfl
    · exact .inl first
    · exact .inr (.inl first)
  · obtain ⟨segment, -, stands⟩ := List.mem_filterMap.mp behind
    unfold component? at stands
    split at stands
    · cases stands
    · split at stands
      · cases stands
        exact .inr (.inr member)
      · cases stands
        exact absurd rfl other

/-- A path that is not empty starts with a segment that is not empty, unless it starts with the
root. -/
theorem exists_segments_eq_cons (relative : p.isAbsolute = false) (nonempty : p.octets ≠ []) :
    ∃ first more, segments p.octets = first :: more ∧ first ≠ [] := by
  cases octets : p.octets with
  | nil => exact absurd octets nonempty
  | cons b rest =>
    have other : b ≠ Bytes.slash := by
      rintro rfl
      rw [isAbsolute, octets] at relative
      cases relative
    rw [segments, Bytes.splitAll, if_neg other]
    split
    · exact ⟨_, _, rfl, List.cons_ne_nil _ _⟩
    · exact ⟨_, _, rfl, List.cons_ne_nil _ _⟩

/-- A plain path that is not empty has a name. -/
theorem Plain.names_ne_nil (plain : p.Plain) (nonempty : p.octets ≠ []) :
    Destination.names p.components ≠ [] := by
  obtain ⟨first, more, segments, given⟩ := exists_segments_eq_cons plain.relative nonempty
  have notHere : first ≠ [Bytes.dot] := by
    rintro rfl
    have begun := plain.start
    rw [FilePath.start, plain.relative, if_neg Bool.false_ne_true, segments] at begun
    cases begun
  obtain ⟨component, stands⟩ : ∃ component, component? first = some component := by
    unfold component?
    rw [if_neg (by simp [given, notHere])]
    split
    · exact ⟨_, rfl⟩
    · exact ⟨_, rfl⟩
  have member : component ∈ p.components := by
    rw [components, segments]
    refine List.mem_append_right _ (List.mem_filterMap.mpr ⟨first, List.mem_cons_self .., stands⟩)
  intro none_
  rw [plain.components_eq, none_] at member
  cases member

/-- A path whose parts begin with those of another is within that. -/
theorem isWithin_of_components {more : List Component}
    (components : p.components = base.components ++ more) : p.isWithin base = true := by
  rw [isWithin, List.isPrefixOf_iff_prefix, components]
  exact List.prefix_append ..

end FilePath

/-! ## Destinations -/

namespace Destination

open FilePath

variable {base path : FilePath} {filename : String}

/-- The empty name stands for the client's. -/
theorem resolve_renamed_empty (base : FilePath) (filename : String) :
    (renamed "").resolve base filename = ownName.resolve base filename :=
  rfl

/-- A plain name can be saved under, unless it is empty, and adds just its parts to the base
directory. -/
theorem resolve_renamed_of_plain {name : String} (plain : (FilePath.ofString name).Plain)
    (nonempty : name ≠ "") (base : FilePath) (filename : String) :
    ∃ path, (renamed name).resolve base filename = .ok path ∧
      path.components = base.components ++ (FilePath.ofString name).components := by
  have given : (FilePath.ofString name).octets ≠ [] :=
    fun empty => nonempty (Bytes.ofString_injective empty)
  have down : .up ∉ (FilePath.ofString name).components := fun climbs => by cases plain _ climbs
  obtain ⟨path, resolved⟩ : ∃ path, (renamed name).resolve base filename = .ok path := by
    apply (exists_resolve_renamed_iff nonempty).mpr
    exact ⟨down, names_ne_nil_iff.mp (plain.names_ne_nil given)⟩
  refine ⟨path, resolved, ?_⟩
  rw [components_of_renamed nonempty resolved, List.filter_eq_self.mpr plain]

/-- In a directory a save is possible if it is possible under the client's name without one. -/
theorem exists_resolve_inDirectory_iff {directory : FilePath} :
    (∃ path, (inDirectory directory).resolve base filename = .ok path) ↔
      ownSegment filename ∉ ["", ".", ".."] := by
  have own : (∃ path, ownName.resolve base filename = .ok path) ↔
      ownSegment filename ∉ ["", ".", ".."] := exists_resolve_ownName_iff
  rw [resolve_inDirectory, ← own]
  cases ownName.resolve base filename with
  | error failure => simp only [Except.map, reduceCtorEq, exists_false]
  | ok other => simp only [Except.map, Except.ok.injEq, exists_eq']

/-- In a plain directory a save lands at the parts of that, and at the client's name behind
them. -/
theorem components_of_inDirectory {directory : FilePath} (plain : directory.Plain)
    (resolved : (inDirectory directory).resolve base filename = .ok path) :
    path.components = base.components ++
      (directory.components ++ [.name (Bytes.ofString (ownSegment filename))]) := by
  rw [resolve_inDirectory] at resolved
  cases own : ownName.resolve base filename with
  | error failure => simp only [own, Except.map, reduceCtorEq] at resolved
  | ok other =>
    obtain ⟨named, -⟩ := resolve_ownName_eq_ok_iff.mp own
    simp only [own, Except.map, plain.relative, Bool.false_eq_true, if_false, Except.ok.injEq]
      at resolved
    rw [← resolved, FilePath.ofString, (endsIn_join named _).2.2,
      components_join base plain.relative plain.start, List.append_assoc]

end Destination

namespace Http

/-! ## The two checks -/

/-- A value is accepted if it is plain, and refused as a bad request otherwise. -/
theorem relativeTarget_cases (parameter value : String) :
    ((FilePath.ofString value).Plain ∧
      relativeTarget parameter value = .ok (.ofString value)) ∨
    (¬ (FilePath.ofString value).Plain ∧
      ∃ message, relativeTarget parameter value = .error (.badRequest message)) := by
  unfold relativeTarget
  by_cases plain : (FilePath.ofString value).components.all FilePath.Component.isName = true
  · exact .inl ⟨List.all_eq_true.mp plain, if_pos plain⟩
  · exact .inr ⟨fun all => plain (List.all_eq_true.mpr all), _, if_neg plain⟩

theorem plain_of_relativeTarget {parameter value : String} {target : FilePath}
    (accepted : relativeTarget parameter value = .ok target) :
    (FilePath.ofString value).Plain ∧ target = .ofString value := by
  rcases relativeTarget_cases parameter value with ⟨plain, same⟩ | ⟨-, message, refused⟩
  · exact ⟨plain, Except.ok.inj (accepted.symm.trans same)⟩
  · cases accepted.symm.trans refused

theorem destination_saveAs (limitMib : Option Nat) (name : String) :
    destination { limitMib, saveAs := some name } =
      (relativeTarget "save_as" name).map fun _ => .renamed name :=
  rfl

theorem destination_saveIn (limitMib : Option Nat) (directory : String) :
    destination { limitMib, saveIn := some directory } =
      (relativeTarget "save_in" directory).map .inDirectory :=
  rfl

/-- Where a save can land that the parameters of a request ask for: under the client's name, under a
plain one, or in a plain directory. -/
theorem destination_cases {parameters : UploadParameters} {target : Destination}
    (asked : destination parameters = .ok target) :
    target = .ownName ∨
      (∃ name, (FilePath.ofString name).Plain ∧ target = .renamed name) ∨
      ∃ directory : FilePath, directory.Plain ∧ target = .inDirectory directory := by
  unfold destination at asked
  split at asked
  · cases asked
  · next name _ _ =>
    cases checked : relativeTarget "save_as" name with
    | error failure => rw [checked] at asked; cases asked
    | ok path =>
      rw [checked] at asked
      cases asked
      exact .inr (.inl ⟨name, (plain_of_relativeTarget checked).1, rfl⟩)
  · next directory _ _ =>
    cases checked : relativeTarget "save_in" directory with
    | error failure => rw [checked] at asked; cases asked
    | ok path =>
      rw [checked] at asked
      cases asked
      obtain ⟨plain, rfl⟩ := plain_of_relativeTarget checked
      exact .inr (.inr ⟨_, plain, rfl⟩)
  · cases asked
    exact .inl rfl

/-- What a request asks for adds only names to the base directory. -/
theorem components_of_asked {parameters : UploadParameters} {target : Destination}
    {base path : FilePath} {filename : String} (asked : destination parameters = .ok target)
    (resolved : target.resolve base filename = .ok path) :
    ∃ names : List Bytes, path.components = base.components ++ names.map .name := by
  have own (resolved : Destination.ownName.resolve base filename = .ok path) :
      ∃ names : List Bytes, path.components = base.components ++ names.map .name := by
    refine ⟨[Bytes.ofString (Destination.ownSegment filename)], ?_⟩
    rw [Destination.components_of_ownName resolved, List.map_singleton]
  rcases destination_cases asked with rfl | ⟨name, plain, rfl⟩ | ⟨directory, plain, rfl⟩
  · exact own resolved
  · by_cases empty : name = ""
    · rw [empty, Destination.resolve_renamed_empty] at resolved
      exact own resolved
    · refine ⟨Destination.names (FilePath.ofString name).components, ?_⟩
      rw [Destination.components_of_renamed empty resolved, Destination.map_names]
  · refine ⟨Destination.names directory.components ++
      [Bytes.ofString (Destination.ownSegment filename)], ?_⟩
    rw [Destination.components_of_inDirectory plain resolved, List.map_append,
      ← plain.components_eq, List.map_singleton]

/-- The check that a path lies within the base directory refuses nothing that a request can ask
for, unless it cannot be resolved. -/
theorem contained_eq_map {parameters : UploadParameters} {target : Destination}
    (asked : destination parameters = .ok target) (u : Upload) :
    contained u target = (u.locate target).map fun _ => () := by
  unfold contained
  cases located : u.locate target with
  | error failure => rfl
  | ok path =>
    obtain ⟨names, components⟩ := components_of_asked asked located
    dsimp only
    rw [if_pos (FilePath.isWithin_of_components components)]
    rfl

/-! ## Refused values -/

/-- Taking a pair keeps targets that were taken before, and heeds the pair. -/
theorem take_saves {p q : UploadParameters} {pair : String × String} (taken : p.take pair = .ok q) :
    ((∀ name, p.saveAs = some name → q.saveAs = some name) ∧
      (pair.1 = "save_as" → q.saveAs = some pair.2)) ∧
    ((∀ directory, p.saveIn = some directory → q.saveIn = some directory) ∧
      (pair.1 = "save_in" → q.saveIn = some pair.2)) := by
  unfold UploadParameters.take at taken
  split at taken
  · next limit =>
    unfold UploadParameters.takeLimit at taken
    split at taken
    · cases taken
    · split at taken <;> cases taken
      exact ⟨⟨fun _ => id, fun as => absurd (limit.symm.trans as) (by decide)⟩,
        fun _ => id, fun in_ => absurd (limit.symm.trans in_) (by decide)⟩
  · next as =>
    split at taken
    · cases taken
    · next fresh =>
      cases taken
      have none_ : p.saveAs = none := Option.not_isSome_iff_eq_none.mp fresh
      exact ⟨⟨fun name before => absurd (none_.symm.trans before) nofun, fun _ => rfl⟩,
        fun _ => id, fun in_ => absurd (as.symm.trans in_) (by decide)⟩
  · next in_ =>
    split at taken
    · cases taken
    · next fresh =>
      cases taken
      have none_ : p.saveIn = none := Option.not_isSome_iff_eq_none.mp fresh
      exact ⟨⟨fun _ => id, fun as => absurd (in_.symm.trans as) (by decide)⟩,
        fun directory before => absurd (none_.symm.trans before) nofun, fun _ => rfl⟩
  · next unlimited notAs notIn =>
    cases taken
    exact ⟨⟨fun _ => id, fun as => absurd as notAs⟩, fun _ => id, fun in_ => absurd in_ notIn⟩

/-- The parameters of a query hold the targets that it names. -/
theorem saves_of_pairs {pairs : List (String × String)} {parameters : UploadParameters}
    (taken : UploadParameters.ofPairs pairs = .ok parameters) (value : String) :
    (("save_as", value) ∈ pairs → parameters.saveAs = some value) ∧
      (("save_in", value) ∈ pairs → parameters.saveIn = some value) := by
  constructor
  · intro member
    obtain ⟨name, rfl, given⟩ := (foldlM_take_heeds (R := fun text name => name = text)
      (fun step => ⟨(take_saves step).1.1, fun same => ⟨_, rfl, (take_saves step).1.2 same⟩⟩)
      taken).2 value member
    exact given
  · intro member
    obtain ⟨directory, rfl, given⟩ := (foldlM_take_heeds (R := fun text name => name = text)
      (fun step => ⟨(take_saves step).2.1, fun same => ⟨_, rfl, (take_saves step).2.2 same⟩⟩)
      taken).2 value member
    exact given

/-- Parameters that hold a value that is not plain ask for no destination. -/
theorem destination_of_refused {parameters : UploadParameters} {value : String}
    (refused : ¬ (FilePath.ofString value).Plain)
    (given : parameters.saveAs = some value ∨ parameters.saveIn = some value) :
    ∃ message, destination parameters = .error (.badRequest message) := by
  have fails (parameter : String) :
      ∃ message, relativeTarget parameter value = .error (.badRequest message) := by
    rcases relativeTarget_cases parameter value with ⟨plain, -⟩ | ⟨-, fails⟩
    · exact absurd plain refused
    · exact fails
  obtain ⟨limitMib, saveAs, saveIn⟩ := parameters
  dsimp only at given
  rcases given with rfl | rfl
  · cases saveIn with
    | some directory => exact ⟨_, rfl⟩
    | none =>
      obtain ⟨message, told⟩ := fails "save_as"
      refine ⟨message, ?_⟩
      rw [destination_saveAs, told]
      rfl
  · cases saveAs with
    | some name => exact ⟨_, rfl⟩
    | none =>
      obtain ⟨message, told⟩ := fails "save_in"
      refine ⟨message, ?_⟩
      rw [destination_saveIn, told]
      rfl

/-- A request that names a value that is not plain is answered 400, whatever it sends, and changes
nothing. -/
theorem handle_of_refused [Memory] (config : Config) (fs : FileSystem) {request : Request}
    (broken : Option BrokenWrite) {escaped : Bytes} {value : String}
    (posted : request.method = "POST")
    (route : Route.ofPath? (path request.target) = some (.upload escaped))
    (named : ("save_as", value) ∈ pairs (query request.target) ∨
      ("save_in", value) ∈ pairs (query request.target))
    (refused : ¬ (FilePath.ofString value).Plain) :
    (handle config fs request broken).2.2.status = 400 ∧
      (handle config fs request broken).1 = fs := by
  rw [handle_of_posted posted route rfl, answer]
  cases read : uploadArguments escaped request with
  | error response => exact ⟨status_of_arguments read, rfl⟩
  | ok both =>
    obtain ⟨field, parameters⟩ := both
    have taken := saves_of_pairs (parameters_of_arguments read) value
    obtain ⟨message, asks⟩ := destination_of_refused refused (named.imp taken.1 taken.2)
    have failed : (receiveFor config field parameters request).result =
        .error (.badRequest message) := by
      unfold receiveFor
      rw [asks, Traced.bind_of_error rfl]
    obtain ⟨same, told⟩ := storeUpload_of_refused fs failed
    dsimp only [Response.ofTraced]
    rw [told]
    exact ⟨rfl, same⟩

/-! ## All values -/

/-- The check of a value and the resolution of the destination that it makes agree. A value that is
accepted, as a name or as a directory, only adds names to the script directory, so the check of the
path never refuses it. As a name that is not empty it adds just its own parts, whatever the client
calls its file; as the empty name, or as a directory, it can be resolved just if the client's name
can be used. A value that is refused has a root or a `.` in front, or a `..`, and a request that
names it is answered 400 and changes nothing. -/
theorem targets_agree [Memory] (value : String) :
    (∀ parameter target, relativeTarget parameter value = .ok target →
      target = .ofString value ∧
      (∀ limitMib, destination { limitMib, saveAs := some value } = .ok (.renamed value) ∧
        destination { limitMib, saveIn := some value } = .ok (.inDirectory target)) ∧
      (∀ scriptDir filename, ∀ made ∈ [Destination.renamed value, .inDirectory target],
        ∀ path, made.resolve scriptDir filename = .ok path →
          (∃ names : List Bytes, path.components = scriptDir.components ++ names.map .name) ∧
            path.isWithin scriptDir = true) ∧
      (∀ u : Upload, ∀ made ∈ [Destination.renamed value, .inDirectory target],
        contained u made ≠
          .error (.badRequest "Save target must be inside the script directory")) ∧
      (value ≠ "" → ∀ scriptDir filename, ∃ path,
        (Destination.renamed value).resolve scriptDir filename = .ok path ∧
          path.components = scriptDir.components ++ (FilePath.ofString value).components) ∧
      (value = "" → ∀ scriptDir filename,
        ((∃ path, (Destination.renamed value).resolve scriptDir filename = .ok path) ↔
          Destination.ownSegment filename ∉ ["", ".", ".."])) ∧
      ∀ scriptDir filename,
        ((∃ path, (Destination.inDirectory target).resolve scriptDir filename = .ok path) ↔
          Destination.ownSegment filename ∉ ["", ".", ".."])) ∧
    (∀ parameter failure, relativeTarget parameter value = .error failure →
      ((FilePath.ofString value).components.head? = some .root ∨
        (FilePath.ofString value).components.head? = some .here ∨
        .up ∈ (FilePath.ofString value).components) ∧
      ∀ config fs request broken escaped, request.method = "POST" →
        Route.ofPath? (path request.target) = some (.upload escaped) →
        ("save_as", value) ∈ pairs (query request.target) ∨
          ("save_in", value) ∈ pairs (query request.target) →
        (handle config fs request broken).2.2.status = 400 ∧
          (handle config fs request broken).1 = fs) := by
  constructor
  · intro parameter target accepted
    obtain ⟨plain, rfl⟩ := plain_of_relativeTarget accepted
    have checked (parameter : String) :
        relativeTarget parameter value = .ok (.ofString value) := by
      rcases relativeTarget_cases parameter value with ⟨-, same⟩ | ⟨refused, -⟩
      · exact same
      · exact absurd plain refused
    have asked : ∀ made ∈ [Destination.renamed value, .inDirectory (.ofString value)],
        ∃ parameters, destination parameters = .ok made := by
      intro made member
      simp only [List.mem_cons, List.not_mem_nil, or_false] at member
      rcases member with rfl | rfl
      · exact ⟨{ limitMib := none, saveAs := some value }, by rw [destination_saveAs, checked]; rfl⟩
      · exact ⟨{ limitMib := none, saveIn := some value }, by rw [destination_saveIn, checked]; rfl⟩
    refine ⟨rfl, fun limitMib => ⟨?_, ?_⟩, ?_, ?_, ?_, ?_, ?_⟩
    · rw [destination_saveAs, checked]
      rfl
    · rw [destination_saveIn, checked]
      rfl
    · intro scriptDir filename made member path resolved
      obtain ⟨parameters, asks⟩ := asked made member
      obtain ⟨names, components⟩ := components_of_asked asks resolved
      exact ⟨⟨names, components⟩, FilePath.isWithin_of_components components⟩
    · intro u made member refused
      obtain ⟨parameters, asks⟩ := asked made member
      rw [contained_eq_map asks] at refused
      cases located : u.locate made with
      | ok path =>
        rw [located] at refused
        exact absurd refused nofun
      | error failure =>
        obtain ⟨message, rfl⟩ := Destination.resolve_eq_error located
        rw [located] at refused
        exact absurd (Except.error.inj refused) nofun
    · intro nonempty scriptDir filename
      exact Destination.resolve_renamed_of_plain plain nonempty scriptDir filename
    · rintro rfl scriptDir filename
      rw [Destination.resolve_renamed_empty]
      exact Destination.exists_resolve_ownName_iff
    · exact fun scriptDir filename => Destination.exists_resolve_inDirectory_iff
  · intro parameter failure failed
    have refused : ¬ (FilePath.ofString value).Plain := by
      rcases relativeTarget_cases parameter value with ⟨-, same⟩ | ⟨refused, -⟩
      · cases failed.symm.trans same
      · exact refused
    exact ⟨FilePath.Plain.refused_cases refused, fun config fs request broken escaped posted route
      named => handle_of_refused config fs broken posted route named refused⟩

/-- A name with a `.` inside and a slash behind it adds its two names to the script directory, and a
request for a directory that goes up first and comes down again is answered 400. -/
theorem targets_agree_dotted :
    (∃ path, (Destination.renamed "a/./b/").resolve (.ofString "./srv") "c.txt" = .ok path ∧
      path.components = (FilePath.ofString "./srv").components ++
        (FilePath.ofString "a/./b/").components) ∧
    (FilePath.ofString "a/./b/").components =
      [.name (Bytes.ofString "a"), .name (Bytes.ofString "b")] ∧
    .up ∈ (FilePath.ofString "a/../b").components ∧
    (handle {} .empty ⟨"POST", Bytes.ofString "/uploads/f?save_in=a/../b", [], []⟩).2.2.status =
      400 := by
  have accepted : relativeTarget "save_as" "a/./b/" = .ok (.ofString "a/./b/") := by rfl
  have refused : relativeTarget "save_in" "a/../b" =
      .error (.badRequest "'save_in' must be a relative path without '..'") := by rfl
  have routed : Route.ofPath? (path (Bytes.ofString "/uploads/f?save_in=a/../b")) =
      some (.upload [0x66]) := by decide
  have named : ("save_in", "a/../b") ∈
      pairs (query (Bytes.ofString "/uploads/f?save_in=a/../b")) := by decide +kernel
  obtain ⟨-, -, -, -, lands, -⟩ := (targets_agree "a/./b/").1 "save_as" _ accepted
  obtain ⟨climbs, answers⟩ := (targets_agree "a/../b").2 "save_in" _ refused
  refine ⟨lands (by decide) _ _, by decide, by decide, ?_⟩
  exact (answers {} .empty ⟨"POST", _, [], []⟩ none [0x66] rfl routed (.inr named)).1

end Http

end Intake
