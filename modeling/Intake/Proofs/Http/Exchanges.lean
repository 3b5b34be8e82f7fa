import Intake.Http.Service
import Intake.Proofs.FilePath.Descent
import Intake.Proofs.Upload.Declaration
import Intake.Proofs.Upload.Saving

/-!
# What requests do to the file system

A request that is answered 201 added one file, which holds what was received and has the name
that the answer tells; any other leaves the file system as it was, also one whose save is begun
and its write breaks off (`handle_cases`). Over any sequence of requests nothing that was there is
lost, and while there is no link beneath the script directory every file that is added lies beneath
it (`exchanges_store`).
-/

namespace Intake

namespace FileSystem

variable {before after : FileSystem} {place : Location} {content : Bytes}

/-- A file system gains a file at one place only. -/
theorem Gains.unique {other : Location} {more : Bytes} (gains : before.Gains after place content)
    (again : before.Gains after other more) : other = place ∧ more = content := by
  have there := again.find? other
  rw [if_pos rfl, gains.find?] at there
  split at there
  · next same =>
    cases there
    exact ⟨same, rfl⟩
  · rw [again.free] at there
    cases there

end FileSystem

namespace Http

/-- A field of the object that a response holds. -/
def Response.field? (r : Response) (key : String) : Option Json :=
  match r.content with
  | .json (.object fields) => fields.lookup key
  | _ => none

theorem field?_size (artifact : Artifact) (savedAs : Option String) (status : Nat) :
    (Response.json status (metadata artifact savedAs)).field? "size" =
      some (.number artifact.bytes.length) := by
  cases savedAs <;> rfl

theorem field?_savedAs (artifact : Artifact) (savedAs : String) (status : Nat) :
    (Response.json status (metadata artifact (some savedAs))).field? "saved_as" =
      some (.string savedAs) :=
  rfl

/-! ## One request -/

/-- `request` stored what was received for it as the file `name` in `dir`, and was told so. -/
structure Stored [Memory] (config : Config) (fs : FileSystem) (request : Request)
    (after : FileSystem) (response : Response) (dir : Location) (name : Bytes) (upload : Upload) :
    Prop where
  posted : request.method = "POST"
  received : ∃ escaped field parameters,
    Route.ofPath? (path request.target) = some (.upload escaped) ∧
      uploadArguments escaped request = .ok (field, parameters) ∧
      (receive config field parameters.limitMib request).result = .ok upload
  gains : fs.Gains after (name :: dir) upload.artifact.bytes
  answered : ∃ savedAs, Bytes.ofString savedAs = name ∧
    response = .json 201 (metadata upload.artifact (some savedAs))
  beneath : ∀ home, fs.resolve config.scriptDir = .ok (home, .directory) →
    fs.LinkFreeBeneath home → home <:+ dir

/-- A request that names a directory to save in names one beneath the script directory. -/
theorem descends_of_destination {parameters : UploadParameters} {directory : FilePath}
    (h : destination parameters = .ok (.inDirectory directory)) : directory.Descends := by
  unfold destination at h
  split at h
  · cases h
  · unfold relativeTarget at h
    split at h <;> cases h
  · unfold relativeTarget at h
    split at h
    · next names =>
      cases h
      exact FilePath.descends_of_names names
    · cases h
  · cases h

/-- What is received is saved beneath the script directory. -/
theorem baseDir_of_receive [Memory] {config : Config} {field : String} {limitMib : Option Nat}
    {request : Request} {upload : Upload}
    (h : (receive config field limitMib request).result = .ok upload) :
    upload.baseDir = config.scriptDir :=
  (Upload.receive_eq_ok_iff.mp h).2.2.2

variable {config : Config} {fs : FileSystem} {field : String} {parameters : UploadParameters}
  {request : Request} {broken : Option BrokenWrite}

theorem receiveFor_eq_ok [Memory] {upload : Upload} {target : Destination}
    (h : (receiveFor config field parameters request).result = .ok (upload, target)) :
    destination parameters = .ok target ∧
      (receive config field parameters.limitMib request).result = .ok upload := by
  unfold receiveFor at h
  simp only [Traced.result_bind_eq_ok_iff] at h
  obtain ⟨found, asked, received, whole, -, -, both⟩ := h
  cases both
  exact ⟨asked, whole⟩

/-- What is received for a request that stores, in the order of the checks. -/
theorem receiveFor_result [Memory] (config : Config) (field : String) (request : Request)
    (parameters : UploadParameters) :
    (receiveFor config field parameters request).result =
      (destination parameters).bind fun target =>
        (receive config field parameters.limitMib request).result.bind fun upload =>
          (contained upload target).map fun _ => (upload, target) := by
  unfold receiveFor
  cases asked : destination parameters with
  | error failure => rw [Traced.bind_of_error rfl]; rfl
  | ok target =>
    rw [Traced.bind_of_ok rfl]
    cases received : (receive config field parameters.limitMib request).result with
    | error failure => rw [Traced.bind_of_error received]; rfl
    | ok upload =>
      rw [Traced.bind_of_ok received]
      dsimp only [Except.bind]
      cases checked : contained upload target with
      | error failure => rw [Traced.bind_of_error rfl]; rfl
      | ok passed => rw [Traced.bind_of_ok rfl]; rfl

theorem storeUpload_of_refused [Memory] (fs : FileSystem) {failure : Failure}
    (h : (receiveFor config field parameters request).result = .error failure) :
    (storeUpload config fs field parameters request broken).1 = fs ∧
      (storeUpload config fs field parameters request broken).2.result = .error failure := by
  unfold storeUpload
  dsimp only
  rw [h]
  exact ⟨rfl, rfl⟩

/-- What was received is stored as its save goes. -/
theorem storeUpload_of_received [Memory] (fs : FileSystem) {upload : Upload} {target : Destination}
    (h : (receiveFor config field parameters request).result = .ok (upload, target)) :
    (storeUpload config fs field parameters request broken).1 =
        (upload.saveTo fs target broken).1 ∧
      (storeUpload config fs field parameters request broken).2.result =
        (upload.saveTo fs target broken).2.result.map fun path =>
          .json 201 (metadata upload.artifact (path.fileName.map Utf8.decodeLossy)) := by
  unfold storeUpload
  dsimp only
  rw [h]
  refine ⟨rfl, ?_⟩
  dsimp only
  rw [Traced.bind_of_ok rfl]
  cases saved : (upload.saveTo fs target broken).2.result with
  | error failure => rw [Traced.bind_of_error saved]; rfl
  | ok path => rw [Traced.bind_of_ok saved]; rfl

/-- Storing fails without a change, or stores what was received. -/
theorem storeUpload_cases [Memory] (config : Config) (fs : FileSystem) (field : String)
    (parameters : UploadParameters) (request : Request) (broken : Option BrokenWrite) :
    (∃ failure, (storeUpload config fs field parameters request broken).2.result =
        .error failure ∧
      (storeUpload config fs field parameters request broken).1 = fs) ∨
    ∃ upload target path, (receiveFor config field parameters request).result =
        .ok (upload, target) ∧
      (upload.saveTo fs target broken).2.result = .ok path ∧
      (storeUpload config fs field parameters request broken).1 =
        (upload.saveTo fs target broken).1 ∧
      (storeUpload config fs field parameters request broken).2.result =
        .ok (.json 201 (metadata upload.artifact (path.fileName.map Utf8.decodeLossy))) := by
  cases received : (receiveFor config field parameters request).result with
  | error failure =>
    obtain ⟨same, failed⟩ := storeUpload_of_refused fs received
    exact .inl ⟨failure, failed, same⟩
  | ok both =>
    obtain ⟨upload, target⟩ := both
    obtain ⟨after, told⟩ := storeUpload_of_received fs received
    cases saved : (upload.saveTo fs target broken).2.result with
    | error failure =>
      rw [saved] at told
      exact .inl ⟨failure, told, after.trans (Upload.saveTo_eq_error saved)⟩
    | ok path =>
      rw [saved] at told
      exact .inr ⟨upload, target, path, rfl, saved, after, told⟩

/-- No failure is answered with success. -/
theorem status_ge_of_failure (failure : Failure) : 400 ≤ failure.status := by
  cases failure <;> simp [Failure.status]

theorem status_ne_created (failure : Failure) : failure.status ≠ 201 := by
  have refused := status_ge_of_failure failure
  omega

/-- What a request stores lies at the place that its answer names. -/
theorem stored_of_saveTo [Memory] {escaped : Bytes} {upload : Upload} {target : Destination}
    {path : FilePath} (posted : request.method = "POST")
    (route : Route.ofPath? (Http.path request.target) = some (.upload escaped))
    (arguments : uploadArguments escaped request = .ok (field, parameters))
    (received : (receiveFor config field parameters request).result = .ok (upload, target))
    (saved : (upload.saveTo fs target broken).2.result = .ok path) :
    ∃ dir name, Stored config fs request (upload.saveTo fs target broken).1
      (.json 201 (metadata upload.artifact (path.fileName.map Utf8.decodeLossy))) dir name
      upload := by
  obtain ⟨asked, whole⟩ := receiveFor_eq_ok received
  obtain ⟨located, dir, name, free, stands, same⟩ := Upload.saveTo_eq_ok saved
  obtain ⟨down, nonempty, leads⟩ := Destination.leadsDown_of_resolve
    (fun directory inside => descends_of_destination (inside ▸ asked)) located
  obtain ⟨text, rfl⟩ := FileSystem.text_of_parent leads nonempty stands
  refine ⟨dir, Bytes.ofString text, posted, ⟨escaped, field, parameters, route, arguments, whole⟩,
    ?_, ⟨text, rfl, ?_⟩, fun home there linkFree => ?_⟩
  · rw [same]
    exact fs.gains_insert dir _ _ free
  · rw [FileSystem.fileName_of_parent stands, Option.map_some, Utf8.decodeLossy_ofString]
  · rw [baseDir_of_receive whole] at leads
    exact FileSystem.beneath_of_parent leads nonempty linkFree there stands

/-- Arguments that cannot be read are answered 400. -/
theorem status_of_arguments {α : Type} {escaped : Bytes} {parameters : Except QueryFault α}
    {response : Response}
    (h : (do
      let field ← fieldName escaped
      let a ← parametersOr parameters
      return (field, a)) = Except.error response) : response.status = 400 := by
  unfold fieldName at h
  split at h
  · cases parameters <;> cases h
    rfl
  · cases h
    rfl

/-- A request that is posted where just that is known is answered as its route answers. -/
theorem handle_of_posted [Memory] {route : Route} (posted : request.method = "POST")
    (known : Route.ofPath? (path request.target) = some route) (posts : route.methods = ["POST"]) :
    handle config fs request broken = answer config fs request broken route := by
  have allowed : request.method ∈ route.methods := by
    rw [posts, posted]
    exact List.mem_singleton.mpr rfl
  have plain : request.method ≠ "HEAD" := by
    rw [posted]
    decide
  unfold handle
  rw [known]
  dsimp only
  rw [if_pos allowed, if_neg plain]

/-- Inspecting an upload is never answered 201. -/
theorem status_of_inspectUpload [Memory] (config : Config) (field : String) (limitMib : Option Nat)
    (request : Request) :
    (Response.ofTraced (inspectUpload config field limitMib request)).2.status ≠ 201 := by
  unfold Response.ofTraced inspectUpload
  split
  · next response inspected =>
    obtain ⟨upload, -, told⟩ := Traced.result_bind_eq_ok_iff.mp inspected
    cases told
    simp [Response.json]
  · next failure _ => exact status_ne_created failure

/-- What a route answers: it stored what was received, or it changed nothing. -/
theorem answer_cases [Memory] (config : Config) (fs : FileSystem) {request : Request}
    (broken : Option BrokenWrite) {route : Route}
    (known : Route.ofPath? (path request.target) = some route)
    (allowed : request.method ∈ route.methods) :
    (∃ dir name upload, Stored config fs request (answer config fs request broken route).1
      (answer config fs request broken route).2.2 dir name upload) ∨
    ((answer config fs request broken route).2.2.status ≠ 201 ∧
      (answer config fs request broken route).1 = fs) := by
  cases route with
  | health => exact .inr ⟨by simp [answer, Response.plainText], rfl⟩
  | apiDescription => exact .inr ⟨by simp [answer, Response.json], rfl⟩
  | inspect escaped =>
    rw [answer]
    cases read : inspectArguments escaped request with
    | error response => exact .inr ⟨by simp [status_of_arguments read], rfl⟩
    | ok both => exact .inr ⟨status_of_inspectUpload config both.1 both.2 request, rfl⟩
  | upload escaped =>
    rw [answer]
    cases read : uploadArguments escaped request with
    | error response => exact .inr ⟨by simp [status_of_arguments read], rfl⟩
    | ok both =>
      obtain ⟨field, parameters⟩ := both
      dsimp only [Response.ofTraced]
      rcases storeUpload_cases config fs field parameters request broken with
        ⟨failure, failed, same⟩ | ⟨upload, target, path, received, saved, same, told⟩
      · rw [failed]
        exact .inr ⟨status_ne_created failure, same⟩
      · rw [told, same]
        obtain ⟨dir, name, stored⟩ :=
          stored_of_saveTo (List.mem_singleton.mp allowed) known read received saved
        exact .inl ⟨dir, name, upload, stored⟩

/-- A request stores what was received for it and is told so, or it is answered otherwise and
changes nothing. -/
theorem handle_cases [Memory] (config : Config) (fs : FileSystem) (request : Request)
    (broken : Option BrokenWrite) :
    (∃ dir name upload, Stored config fs request (handle config fs request broken).1
      (handle config fs request broken).2.2 dir name upload) ∨
    ((handle config fs request broken).2.2.status ≠ 201 ∧
      (handle config fs request broken).1 = fs) := by
  unfold handle
  split
  · exact .inr ⟨by simp [Response.notFound], rfl⟩
  · next route known =>
    split
    · next allowed =>
      rcases answer_cases config fs broken known allowed with
        ⟨dir, name, upload, stored⟩ | ⟨status, same⟩
      · have plain : request.method ≠ "HEAD" := by simp [stored.posted]
        dsimp only
        rw [if_neg plain]
        exact .inl ⟨dir, name, upload, stored⟩
      · refine .inr ⟨?_, same⟩
        dsimp only
        split <;> exact status
    · exact .inr ⟨by simp [Response.methodNotAllowed], rfl⟩

/-- A request that is not answered 201 changes nothing. -/
theorem handle_unchanged [Memory]
    (other : (handle config fs request broken).2.2.status ≠ 201) :
    (handle config fs request broken).1 = fs := by
  rcases handle_cases config fs request broken with ⟨dir, name, upload, stored⟩ | ⟨-, same⟩
  · obtain ⟨savedAs, -, told⟩ := stored.answered
    exact absurd (congrArg Response.status told) other
  · exact same

/-! ## A request that is stored -/

/-- A request to store a form of two octets. -/
def storeRequest : Request where
  method := "POST"
  target := Bytes.ofString "/uploads/a?save_as=x"
  headers := [FormData.announcement "B"]
  body := [.frame (FormData.encode (Bytes.ofString "B") [Upload.twoOctets])]

/-- A server that receives two octets at most. -/
def smallConfig (base : FilePath) : Config where
  scriptDir := base
  files := { maxFileSize := 2, memoryLimit := 2, chunkSize := some 1 }

theorem receive_storeRequest (base : FilePath) :
    (receive (smallConfig base) "a" none storeRequest).result =
      .ok ⟨Upload.twoOctets.received, base⟩ :=
  Upload.receive_twoOctets [] base 20 (Upload.not_overdeclares_announcement _)

theorem ofPath?_storeRequest :
    Route.ofPath? (path storeRequest.target) = some (.upload [0x61]) := by decide

theorem uploadArguments_storeRequest :
    uploadArguments [0x61] storeRequest = .ok ("a", { saveAs := some "x" }) := by
  have named : Utf8.decode? (percentDecode [0x61]) = some "a" := by decide +kernel
  have given : pairs (query storeRequest.target) = [("save_as", "x")] := by decide +kernel
  rw [uploadArguments, fieldName, named, given]
  rfl

/-- Where a file can be created for it, the form of two octets is stored unless its write breaks
off. -/
theorem status_storeRequest {base path : FilePath} {created : FileSystem} {place : Location}
    (located : Upload.locate ⟨Upload.twoOctets.received, base⟩ (.renamed "x") = .ok path)
    (inside : path.isWithin base = true) (create : fs.createNew path = .ok (created, place))
    (broken : Option BrokenWrite) :
    (handle (smallConfig base) fs storeRequest broken).2.2.status =
      if broken = none then 201 else 500 := by
  have received : (receiveFor (smallConfig base) "a" { saveAs := some "x" } storeRequest).result =
      .ok (⟨Upload.twoOctets.received, base⟩, .renamed "x") := by
    have asked : destination { saveAs := some "x" } = .ok (.renamed "x") := by decide
    have accepted : contained ⟨Upload.twoOctets.received, base⟩ (.renamed "x") = .ok () := by
      unfold contained
      rw [located]
      exact if_pos inside
    rw [receiveFor_result, asked]
    dsimp only [Except.bind]
    rw [receive_storeRequest]
    dsimp only
    rw [accepted]
    rfl
  unfold handle
  rw [ofPath?_storeRequest]
  dsimp only
  rw [if_pos (by decide), answer, uploadArguments_storeRequest]
  dsimp only
  rw [if_neg (by decide), Response.ofTraced, (storeUpload_of_received fs received).2,
    (Upload.saveTo_of_located fs located broken).2]
  cases broken with
  | none => rw [(persist_of_created create).2]; rfl
  | some write => rw [(persist_of_broken create write).2]; rfl

/-- A file system with one directory, which is empty. -/
def oneDirectory : FileSystem :=
  .insert .empty [] (Bytes.ofString "s") .directory (by decide)

theorem resolve_oneDirectory :
    oneDirectory.resolve (.ofString "s") = .ok ([Bytes.ofString "s"], .directory) := by
  have steps : (FilePath.ofString "s").steps = [Bytes.ofString "s"] := by decide
  have there : oneDirectory.find? [Bytes.ofString "s"] = some .directory := by decide
  rw [FileSystem.resolve, show oneDirectory.start _ = .ok [] by decide, steps]
  dsimp only
  rw [FileSystem.walk, if_neg (by decide), if_neg (by decide), if_neg (by decide), there]
  dsimp only
  rw [FileSystem.walk]

theorem parent_oneDirectory :
    oneDirectory.parent (.ofString "s/x") = .ok ([Bytes.ofString "s"], [0x78]) := by
  have there : oneDirectory.find? [Bytes.ofString "s"] = some .directory := by decide
  refine FileSystem.parent_eq_ok_iff.mpr ⟨[], [Bytes.ofString "s"], by decide, by decide, ?_,
    by decide, by decide, by decide, by decide⟩
  rw [FileSystem.walk, if_neg (by decide), if_neg (by decide), if_neg (by decide), there]
  dsimp only
  rw [FileSystem.walk]

/-- The form of two octets is stored in the one directory. -/
theorem status_storeRequest_oneDirectory (broken : Option BrokenWrite) :
    (handle (smallConfig (.ofString "s")) oneDirectory storeRequest broken).2.2.status =
      if broken = none then 201 else 500 :=
  status_storeRequest (by rfl) (by decide) (FileSystem.createNew_eq_ok_iff.mpr
    ⟨[Bytes.ofString "s"], [0x78], by decide, parent_oneDirectory, rfl, rfl⟩) broken

/-! ## Sequences of requests -/

/-- A request, what it was answered, and the file system around it. -/
structure Exchange where
  before : FileSystem
  request : Request
  /-- How the write of its save breaks off, if it does. -/
  broken : Option BrokenWrite
  response : Response
  after : FileSystem

/-- What happens when requests are answered one after another. -/
def exchanges [Memory] (config : Config) (fs : FileSystem) :
    List (Request × Option BrokenWrite) → List Exchange
  | [] => []
  | (request, broken) :: rest =>
    let handled := handle config fs request broken
    ⟨fs, request, broken, handled.2.2, handled.1⟩ :: exchanges config handled.1 rest

theorem handleAll_eq [Memory] (config : Config) (fs : FileSystem)
    (requests : List (Request × Option BrokenWrite)) :
    handleAll config fs requests =
      (((exchanges config fs requests).map Exchange.after).getLastD fs,
        (exchanges config fs requests).map Exchange.response) := by
  induction requests generalizing fs with
  | nil => rfl
  | cons first rest ih =>
    rw [handleAll, exchanges]
    dsimp only
    rw [ih, List.map_cons, List.map_cons, List.getLastD_cons]

/-- A request loses nothing that was there, and makes no link. -/
theorem handle_keeps [Memory] (config : Config) (fs : FileSystem) (request : Request)
    (broken : Option BrokenWrite) :
    fs.GrowsTo (handle config fs request broken).1 ∧
      ∀ home, fs.LinkFreeBeneath home →
        (handle config fs request broken).1.LinkFreeBeneath home := by
  rcases handle_cases config fs request broken with ⟨dir, name, upload, stored⟩ | ⟨-, same⟩
  · exact ⟨stored.gains.growsTo, fun home free => stored.gains.linkFreeBeneath free⟩
  · rw [same]
    exact ⟨.refl fs, fun _ free => free⟩

theorem handleAll_keeps [Memory] (config : Config) (fs : FileSystem)
    (requests : List (Request × Option BrokenWrite)) :
    fs.GrowsTo (handleAll config fs requests).1 := by
  induction requests generalizing fs with
  | nil => exact .refl fs
  | cons first rest ih => exact (handle_keeps config fs first.1 first.2).1.trans (ih _)

/-- Each request is answered for a file system that has all that was there at the beginning. -/
theorem mem_exchanges [Memory] {requests : List (Request × Option BrokenWrite)} {e : Exchange}
    (member : e ∈ exchanges config fs requests) :
    fs.GrowsTo e.before ∧
      (∀ home, fs.LinkFreeBeneath home → e.before.LinkFreeBeneath home) ∧
      e.after = (handle config e.before e.request e.broken).1 ∧
      e.response = (handle config e.before e.request e.broken).2.2 := by
  induction requests generalizing fs with
  | nil => cases member
  | cons next rest ih =>
    obtain ⟨request, broken⟩ := next
    rcases List.mem_cons.mp member with rfl | later
    · exact ⟨.refl fs, fun _ free => free, rfl, rfl⟩
    · obtain ⟨grown, free, handled⟩ := ih later
      obtain ⟨first, still⟩ := handle_keeps config fs request broken
      exact ⟨first.trans grown, fun home empty => free home (still home empty), handled⟩

/-- The same form is to be stored twice, and the first write breaks off after one octet. -/
def storeRequests : List (Request × Option BrokenWrite) :=
  [(storeRequest, some ⟨[0x68], .other "no room"⟩), (storeRequest, none)]

/-- The second of the two requests finds the file system as it was. -/
theorem exchanges_storeRequests : ∃ refused answered after,
    exchanges (smallConfig (.ofString "s")) oneDirectory storeRequests =
      [⟨oneDirectory, storeRequest, some ⟨[0x68], .other "no room"⟩, refused, oneDirectory⟩,
        ⟨oneDirectory, storeRequest, none, answered, after⟩] ∧
    refused.status = 500 ∧ answered.status = 201 := by
  have failed := status_storeRequest_oneDirectory (some ⟨[0x68], .other "no room"⟩)
  have same := handle_unchanged (ne_of_eq_of_ne failed (by decide))
  rw [storeRequests, exchanges, exchanges, exchanges, same]
  exact ⟨_, _, _, rfl, failed, status_storeRequest_oneDirectory none⟩

/-- Over any sequence of requests nothing that was there is lost, whichever writes break off. A
request is answered 201 just if it added one file; that file holds what was received for the
request, and the answer tells its length and its name. Every other request changes nothing. While
there is no link beneath the script directory, every file that is added lies beneath it. -/
theorem exchanges_store [Memory] (config : Config) (fs : FileSystem)
    (requests : List (Request × Option BrokenWrite)) :
    handleAll config fs requests =
      (((exchanges config fs requests).map Exchange.after).getLastD fs,
        (exchanges config fs requests).map Exchange.response) ∧
    fs.GrowsTo (handleAll config fs requests).1 ∧
    ∀ e ∈ exchanges config fs requests,
      (e.response.status = 201 ↔ ∃ place content, e.before.Gains e.after place content) ∧
      (e.response.status ≠ 201 → e.after = e.before) ∧
      e.before.GrowsTo e.after ∧
      ∀ place content, e.before.Gains e.after place content →
        (∃ escaped field parameters upload,
          Route.ofPath? (path e.request.target) = some (.upload escaped) ∧
            uploadArguments escaped e.request = .ok (field, parameters) ∧
            (receive config field parameters.limitMib e.request).result = .ok upload ∧
            content = upload.artifact.bytes) ∧
        e.response.field? "size" = some (.number content.length) ∧
        ∃ savedAs dir, e.response.field? "saved_as" = some (.string savedAs) ∧
          place = Bytes.ofString savedAs :: dir ∧
          ∀ home, fs.resolve config.scriptDir = .ok (home, .directory) →
            fs.LinkFreeBeneath home → home <:+ dir := by
  refine ⟨handleAll_eq config fs requests, handleAll_keeps config fs requests, ?_⟩
  intro e member
  obtain ⟨grown, free, after, response⟩ := mem_exchanges member
  rcases handle_cases config e.before e.request e.broken with
    ⟨dir, name, upload, stored⟩ | ⟨status, same⟩
  · rw [← after, ← response] at stored
    obtain ⟨-, ⟨escaped, field, parameters, received⟩, gains, named, beneath⟩ := stored
    obtain ⟨savedAs, rfl, told⟩ := named
    have created : e.response.status = 201 := by rw [told]; rfl
    refine ⟨⟨fun _ => ⟨_, _, gains⟩, fun _ => created⟩, fun other => absurd created other,
      gains.growsTo, fun place content again => ?_⟩
    obtain ⟨rfl, rfl⟩ := gains.unique again
    refine ⟨⟨escaped, field, parameters, upload, received.1, received.2.1, received.2.2, rfl⟩,
      ?_, savedAs, dir, ?_, rfl, fun home there empty => ?_⟩
    · rw [told, field?_size]
    · rw [told, field?_savedAs]
    · exact beneath home (grown.resolve there) (free home empty)
  · rw [← response] at status
    rw [← after] at same
    have idle : ∀ place content, ¬ e.before.Gains e.after place content := by
      rw [same]
      exact fun _ _ => FileSystem.not_gains_self
    refine ⟨⟨fun created => absurd created status, ?_⟩, fun _ => same, ?_,
      fun place content gains => absurd gains (idle place content)⟩
    · rintro ⟨place, content, gains⟩
      exact absurd gains (idle place content)
    · rw [same]
      exact .refl _

/-- The form whose write breaks off leaves nothing behind, so that the same form can be stored
under the same name afterwards. -/
theorem exchanges_store_after_broken :
    oneDirectory.resolve (smallConfig (.ofString "s")).scriptDir =
      .ok ([Bytes.ofString "s"], .directory) ∧
    oneDirectory.LinkFreeBeneath [Bytes.ofString "s"] ∧
    (handleAll (smallConfig (.ofString "s")) oneDirectory storeRequests).2.map Response.status =
      [500, 201] ∧
    ∃ savedAs dir, [Bytes.ofString "s"] <:+ dir ∧
      oneDirectory.Gains (handleAll (smallConfig (.ofString "s")) oneDirectory storeRequests).1
        (Bytes.ofString savedAs :: dir) Upload.twoOctets.received.bytes := by
  have linkFree : oneDirectory.LinkFreeBeneath [Bytes.ofString "s"] := by
    intro place target _ there
    simp only [oneDirectory, FileSystem.find?_insert] at there
    split at there
    · cases there
    · cases place <;> cases there
  obtain ⟨all, -, each⟩ :=
    exchanges_store (smallConfig (.ofString "s")) oneDirectory storeRequests
  obtain ⟨refused, answered, after, both, failed, created⟩ := exchanges_storeRequests
  rw [both] at all each
  obtain ⟨stores, -, -, tells⟩ := each _ (List.mem_cons_of_mem _ (List.mem_cons_self ..))
  obtain ⟨place, content, gains⟩ := stores.mp created
  obtain ⟨⟨escaped, field, parameters, upload, route, arguments, received, rfl⟩, -,
    savedAs, dir, -, rfl, beneath⟩ := tells place content gains
  cases ofPath?_storeRequest.symm.trans route
  cases uploadArguments_storeRequest.symm.trans arguments
  cases (receive_storeRequest _).symm.trans received
  rw [all]
  refine ⟨resolve_oneDirectory, linkFree, ?_, savedAs, dir, ?_, gains⟩
  · exact congrArg₂ (fun a b => [a, b]) failed created
  · exact beneath _ resolve_oneDirectory linkFree

end Http

end Intake
