import Intake.Proofs.Http.Exchanges
import Intake.Proofs.Upload.Mirroring

/-!
# Responses do not tell where files are stored

Two servers that are configured alike up to the script directory, with equal trees beneath the two
directories, answer every sequence of requests alike, and the trees stay equal (`exchanges_alike`),
as long as the same writes break off on both.
Only the lengths of whole paths could tell the directories apart, so the paths that a request is
stored at must be too long on both servers or on neither (`ReachesAlike`).

* `receiveFor_cases`: what is received lies at the same place behind all script directories.
* `handle_alike`: what one request does, which `exchanges_alike` takes to sequences of requests.
-/

namespace Intake

/-! ## What is received -/

/-- A configuration with another script directory. -/
def Config.withScriptDir (config : Config) (base : FilePath) : Config :=
  { config with scriptDir := base }

namespace Http

variable (config : Config) (field : String) (request : Request)

/-- What is received does not depend on the script directory. -/
theorem receive_cases [Memory] (limitMib : Option Nat) :
    (∃ failure, ∀ base,
      (receive (config.withScriptDir base) field limitMib request).result = .error failure) ∨
    ∃ artifact, ∀ base,
      (receive (config.withScriptDir base) field limitMib request).result =
        .ok ⟨artifact, base⟩ := by
  have same (base : FilePath) :
      (receive (config.withScriptDir base) field limitMib request).result =
        (receive config field limitMib request).result.map fun upload =>
          { upload with baseDir := base } :=
    Upload.receive_baseDir request.headers request.body config.scriptDir base field _
  cases received : (receive config field limitMib request).result with
  | error failure => exact .inl ⟨failure, fun base => by rw [same, received]; rfl⟩
  | ok upload => exact .inr ⟨upload.artifact, fun base => by rw [same, received]; rfl⟩

/-- A destination is accepted alike for all base directories. -/
theorem contained_cases (artifact : Artifact) {target : Destination}
    (inside : ∀ directory, target = .inDirectory directory → directory.Descends) :
    (∃ failure, ∀ base, contained ⟨artifact, base⟩ target = .error failure) ∨
    ∃ tail : FilePath, tail.Lands ∧ ∀ base : FilePath, base.octets ≠ [] →
      contained ⟨artifact, base⟩ target = .ok () ∧
        Upload.locate ⟨artifact, base⟩ target = .ok (base.join tail) := by
  rcases target.resolve_cases artifact.filename inside with ⟨failure, fails⟩ | ⟨tail, lands, lies⟩
  · refine .inl ⟨failure, fun base => ?_⟩
    rw [contained, Upload.locate, fails]
  · refine .inr ⟨tail, lands, fun base given => ⟨?_, lies base⟩⟩
    rw [contained, Upload.locate, lies]
    exact if_pos (FilePath.isWithin_join lands.relative given)

/-- A request that stores fails alike for all script directories, or what is received for it lies
behind all of them at the same place. -/
theorem receiveFor_cases [Memory] (parameters : UploadParameters) :
    (∃ failure, ∀ base : FilePath, base.octets ≠ [] →
      (receiveFor (config.withScriptDir base) field parameters request).result = .error failure) ∨
    ∃ (artifact : Artifact) (target : Destination) (tail : FilePath), tail.Lands ∧
      ∀ base : FilePath, base.octets ≠ [] →
        (receiveFor (config.withScriptDir base) field parameters request).result =
            .ok (⟨artifact, base⟩, target) ∧
          Upload.locate ⟨artifact, base⟩ target = .ok (base.join tail) := by
  cases asked : destination parameters with
  | error failure =>
    refine .inl ⟨failure, fun base _ => ?_⟩
    rw [receiveFor_result, asked]
    rfl
  | ok target =>
    have inside : ∀ directory, target = .inDirectory directory → directory.Descends := by
      rintro directory rfl
      exact descends_of_destination asked
    rcases receive_cases config field request parameters.limitMib with
      ⟨failure, fails⟩ | ⟨artifact, received⟩
    · refine .inl ⟨failure, fun base _ => ?_⟩
      rw [receiveFor_result, asked, Except.bind, fails, Except.bind]
    · rcases contained_cases artifact inside with ⟨failure, fails⟩ | ⟨tail, lands, lies⟩
      · refine .inl ⟨failure, fun base _ => ?_⟩
        rw [receiveFor_result, asked, Except.bind, received, Except.bind, fails, Except.map]
      · refine .inr ⟨artifact, target, tail, lands, fun base given => ?_⟩
        rcases lies base given with ⟨accepted, located⟩
        rw [receiveFor_result, asked, Except.bind, received, Except.bind, accepted, Except.map]
        exact ⟨rfl, located⟩

/-! ## Requests -/

/-- Two answers look the same if they come from results that a client cannot tell apart. -/
theorem ofTraced_alike {t u : Traced Response} (alike : Alike Eq t.result u.result) :
    (Response.ofTraced t).2 = (Response.ofTraced u).2 := by
  unfold Response.ofTraced
  generalize t.result = left at alike
  generalize u.result = right at alike
  cases alike with
  | failed looks =>
    dsimp only
    rw [Response.ofFailure, Response.ofFailure, looks.status, looks.message]
  | done same => exact same

/-- Telling of a field looks the same for all script directories. -/
theorem inspectUpload_alike [Memory] (base other : FilePath) (limitMib : Option Nat) :
    Alike Eq (inspectUpload (config.withScriptDir base) field limitMib request).result
      (inspectUpload (config.withScriptDir other) field limitMib request).result := by
  unfold inspectUpload
  rcases receive_cases config field request limitMib with ⟨failure, fails⟩ | ⟨artifact, received⟩
  · rw [Traced.bind_of_error (fails base), Traced.bind_of_error (fails other)]
    exact .failed (.refl failure)
  · rw [Traced.bind_of_ok (received base), Traced.bind_of_ok (received other)]
    exact .done rfl

/-- A request is to be stored at a path. -/
def StoresAt [Memory] (config : Config) (request : Request) (place : FilePath) : Prop :=
  ∃ escaped field parameters upload target,
    Route.ofPath? (path request.target) = some (.upload escaped) ∧
      uploadArguments escaped request = .ok (field, parameters) ∧
      (receiveFor config field parameters request).result = .ok (upload, target) ∧
      upload.locate target = .ok place

/-- The paths that a request is to be stored at on two servers are too long on both or on
neither. -/
def ReachesAlike [Memory] (config : Config) (base other : FilePath) (request : Request) : Prop :=
  ∀ p q, StoresAt (config.withScriptDir base) request p →
    StoresAt (config.withScriptDir other) request q → FileSystem.SameReach p q

/-- Paths behind two directories are as long, if the directories' paths are. -/
theorem reachesAlike_of_length [Memory] {base other : FilePath} (given : base.octets ≠ [])
    (given' : other.octets ≠ [])
    (length : base.octets.length + base.gap.length = other.octets.length + other.gap.length)
    (request : Request) : ReachesAlike config base other request := by
  rintro p q ⟨escaped, field, parameters, upload, target, route, arguments, received, located⟩
    ⟨escaped', field', parameters', upload', target', route', arguments', received', located'⟩
  cases route.symm.trans route'
  cases arguments.symm.trans arguments'
  rcases receiveFor_cases config field request parameters with
    ⟨failure, fails⟩ | ⟨artifact, aim, tail, lands, lies⟩
  · rw [fails base given] at received
    cases received
  · rcases lies base given with ⟨here, place⟩
    rcases lies other given' with ⟨there, place'⟩
    cases received.symm.trans here
    cases received'.symm.trans there
    cases located.symm.trans place
    cases located'.symm.trans place'
    simp only [FileSystem.SameReach, FilePath.octets_join _ lands.relative, List.length_append]
    omega

section Servers

variable {config field request} {base other : FilePath} {fs gs : FileSystem}
  {home house : Location} (mirrors : fs.Mirrors base home gs other house)
include mirrors

/-- The field of a request is stored alike beneath both script directories. -/
theorem storeUpload_alike [Memory] {escaped : Bytes} {parameters : UploadParameters}
    (route : Route.ofPath? (path request.target) = some (.upload escaped))
    (arguments : uploadArguments escaped request = .ok (field, parameters))
    (reach : ReachesAlike config base other request) (broken : Option BrokenWrite) :
    (storeUpload (config.withScriptDir base) fs field parameters request broken).1.Mirrors base
        home (storeUpload (config.withScriptDir other) gs field parameters request broken).1 other
        house ∧
      Alike Eq
        (storeUpload (config.withScriptDir base) fs field parameters request broken).2.result
        (storeUpload (config.withScriptDir other) gs field parameters request broken).2.result
          := by
  have given := FileSystem.octets_ne_nil_of_resolve mirrors.left
  have given' := FileSystem.octets_ne_nil_of_resolve mirrors.right
  rcases receiveFor_cases config field request parameters with
    ⟨failure, fails⟩ | ⟨artifact, target, tail, lands, received⟩
  · rcases storeUpload_of_refused fs (fails base given) with ⟨same, result⟩
    rcases storeUpload_of_refused gs (fails other given') with ⟨same', result'⟩
    rw [same, same', result, result']
    exact ⟨mirrors, .failed (.refl failure)⟩
  · rcases received base given with ⟨here, located⟩
    rcases received other given' with ⟨there, located'⟩
    have reached := reach _ _ ⟨_, _, _, _, _, route, arguments, here, located⟩
      ⟨_, _, _, _, _, route, arguments, there, located'⟩
    rcases storeUpload_of_received fs here with ⟨same, result⟩
    rcases storeUpload_of_received gs there with ⟨same', result'⟩
    rcases mirrors.saveTo_alike lands reached located located' broken with ⟨again, alike⟩
    rw [same, same', result, result']
    refine ⟨again, alike.map fun p q name => ?_⟩
    rw [name]

/-- A route answers alike on both servers. -/
theorem answer_alike [Memory] {route : Route}
    (known : Route.ofPath? (path request.target) = some route)
    (reach : ReachesAlike config base other request) (broken : Option BrokenWrite) :
    (answer (config.withScriptDir base) fs request broken route).1.Mirrors base home
        (answer (config.withScriptDir other) gs request broken route).1 other house ∧
      (answer (config.withScriptDir base) fs request broken route).2.2 =
        (answer (config.withScriptDir other) gs request broken route).2.2 := by
  cases route with
  | health => exact ⟨mirrors, rfl⟩
  | apiDescription => exact ⟨mirrors, rfl⟩
  | inspect escaped =>
    rw [answer, answer]
    cases inspectArguments escaped request with
    | error response => exact ⟨mirrors, rfl⟩
    | ok both => exact ⟨mirrors, ofTraced_alike (inspectUpload_alike config _ request _ _ _)⟩
  | upload escaped =>
    rw [answer, answer]
    cases arguments : uploadArguments escaped request with
    | error response => exact ⟨mirrors, rfl⟩
    | ok both =>
      rcases storeUpload_alike mirrors known arguments reach broken with ⟨again, alike⟩
      exact ⟨again, ofTraced_alike alike⟩

/-- A request is answered alike on both servers, and leaves equal trees. -/
theorem handle_alike [Memory] (reach : ReachesAlike config base other request)
    (broken : Option BrokenWrite) :
    (handle (config.withScriptDir base) fs request broken).1.Mirrors base home
        (handle (config.withScriptDir other) gs request broken).1 other house ∧
      (handle (config.withScriptDir base) fs request broken).2.2 =
        (handle (config.withScriptDir other) gs request broken).2.2 := by
  unfold handle
  cases known : Route.ofPath? (path request.target) with
  | none => exact ⟨mirrors, rfl⟩
  | some route =>
    dsimp only
    by_cases allowed : request.method ∈ route.methods
    · rw [if_pos allowed, if_pos allowed]
      rcases answer_alike mirrors known reach broken with ⟨again, same⟩
      refine ⟨again, ?_⟩
      dsimp only
      rw [same]
    · rw [if_neg allowed, if_neg allowed]
      exact ⟨mirrors, rfl⟩

end Servers

/-! ## Sequences of requests -/

/-- The root of a file system without entries mirrors an empty directory in another. -/
theorem mirrors_oneDirectory :
    FileSystem.empty.Mirrors (.ofString "//") [] oneDirectory (.ofString "s")
      [Bytes.ofString "s"] where
  same below := by
    cases below with
    | nil => decide
    | cons name dir =>
      have apart : name :: dir ++ [Bytes.ofString "s"] ≠ [Bytes.ofString "s"] := by simp
      rw [oneDirectory, FileSystem.find?_insert, if_neg apart]
      rfl
  free := by
    intro place target _ there
    cases place <;> cases there
  left := by
    have steps : (FilePath.ofString "//").steps = [] := by decide
    rw [FileSystem.resolve, show FileSystem.empty.start _ = .ok [] by decide, steps]
    dsimp only
    rw [FileSystem.walk]
  right := resolve_oneDirectory

/-- Two servers that are configured alike up to the script directory, with equal trees without
links beneath the two directories, answer every sequence of requests alike, and the trees are equal
after every request, also when the same writes break off on both. The paths that requests are
stored at must be too long on both or on neither. -/
theorem exchanges_alike [Memory] (config : Config) {base other : FilePath} {fs gs : FileSystem}
    {home house : Location} {requests : List (Request × Option BrokenWrite)}
    (mirrors : fs.Mirrors base home gs other house)
    (reach : ∀ request ∈ requests, ReachesAlike config base other request.1) :
    List.Forall₂
      (fun e e' => e.request = e'.request ∧ e.broken = e'.broken ∧ e.response = e'.response ∧
        e.after.Mirrors base home e'.after other house)
      (exchanges (config.withScriptDir base) fs requests)
      (exchanges (config.withScriptDir other) gs requests) ∧
    (handleAll (config.withScriptDir base) fs requests).2 =
      (handleAll (config.withScriptDir other) gs requests).2 := by
  induction requests generalizing fs gs with
  | nil => exact ⟨.nil, rfl⟩
  | cons first rest ih =>
    obtain ⟨request, broken⟩ := first
    rcases handle_alike mirrors (reach _ (List.mem_cons_self ..)) broken with ⟨again, same⟩
    rcases ih again fun later member => reach later (List.mem_cons_of_mem _ member) with
      ⟨alike, responses⟩
    refine ⟨.cons ⟨rfl, rfl, same, again⟩ alike, ?_⟩
    rw [handleAll, handleAll]
    dsimp only
    rw [same, responses]

/-- A form whose write breaks off at first and is stored then, in the root directory of one file
system and in another directory of another one, is answered alike. -/
theorem exchanges_alike_stored :
    FileSystem.empty.Mirrors (.ofString "//") [] oneDirectory (.ofString "s")
      [Bytes.ofString "s"] ∧
    (∀ request ∈ storeRequests,
      ReachesAlike (smallConfig (.ofString "/")) (.ofString "//") (.ofString "s") request.1) ∧
    (handleAll (smallConfig (.ofString "//")) .empty storeRequests).2 =
      (handleAll (smallConfig (.ofString "s")) oneDirectory storeRequests).2 ∧
    (handleAll (smallConfig (.ofString "//")) .empty storeRequests).2.map Response.status =
      [500, 201] := by
  have reach : ∀ request ∈ storeRequests,
      ReachesAlike (smallConfig (.ofString "/")) (.ofString "//") (.ofString "s") request.1 :=
    fun request _ => reachesAlike_of_length _ (by decide) (by decide) (by decide) request.1
  have alike : (handleAll (smallConfig (.ofString "//")) .empty storeRequests).2 =
      (handleAll (smallConfig (.ofString "s")) oneDirectory storeRequests).2 :=
    (exchanges_alike (smallConfig (.ofString "/")) mirrors_oneDirectory reach).2
  obtain ⟨refused, answered, after, both, failed, created⟩ := exchanges_storeRequests
  refine ⟨mirrors_oneDirectory, reach, alike, ?_⟩
  rw [alike, handleAll_eq, both]
  exact congrArg₂ (fun a b => [a, b]) failed created

end Http

end Intake
