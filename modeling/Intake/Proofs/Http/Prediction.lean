import Intake.Proofs.Http.Reservation
import Intake.Proofs.Http.Secrecy
import Intake.Proofs.Http.Targets
import Intake.Proofs.Upload.Failures

/-!
# Inspecting foretells storing

The two routes of uploads receive in the same way, and storing saves what it received. So a request
to inspect is answered as a request to store the same form would be (`Foretells`), as far as
receiving decides: failures are told alike, and a success tells the same metadata unless the save
fails. Only the saves that a request names can be refused before anything is received
(`AcceptsTarget`).

* `ofPairs_of_others`: the limit of a query is read as if nothing else stood in it.
* `storeUpload_of_received_ok`: what storing comes to once the field was received.
* `status_of_inspect`, `status_of_upload`: the statuses of either route, which are the ones that the
  service describes.
* `inspection_foretells`: both routes, for every request.
-/

namespace Intake

/-! ## The description of the service -/

namespace Json

/-- A field of an object. -/
def field? (key : String) : Json → Option Json
  | object fields => fields.lookup key
  | _ => none

/-- The keys of an object. -/
def keys : Json → List String
  | object fields => fields.map Prod.fst
  | _ => []

end Json

namespace Http

/-- The statuses that the service describes for posting to a path. -/
def ApiDescription.statuses (path : String) : List String :=
  let responses := (((document.field? "paths").bind (Json.field? path)).bind
    (Json.field? "post")).bind (Json.field? "responses")
  (responses.map Json.keys).getD []

/-! ## Queries -/

/-- The pairs of a query that name its limit. -/
def limitPairs (pairs : List (String × String)) : List (String × String) :=
  pairs.filter fun pair => pair.1 == "limit_mib"

/-- The pairs of a query that do not name its limit. -/
def otherPairs (pairs : List (String × String)) : List (String × String) :=
  pairs.filter fun pair => pair.1 != "limit_mib"

/-- A limit is taken without a look at the other parameters. -/
theorem takeLimit_alone (p : UploadParameters) (limitMib : Option Nat) (value : String) :
    { p with limitMib }.takeLimit value =
      (UploadParameters.takeLimit { limitMib } value).map fun q =>
        { p with limitMib := q.limitMib } := by
  unfold UploadParameters.takeLimit
  dsimp only
  split
  · rfl
  · split <;> rfl

/-- What is left after a limit was taken holds nothing else. -/
theorem eq_of_takeLimit_alone {limitMib : Option Nat} {value : String} {q : UploadParameters}
    (taken : UploadParameters.takeLimit { limitMib } value = .ok q) :
    q = { limitMib := q.limitMib } := by
  unfold UploadParameters.takeLimit at taken
  dsimp only at taken
  split at taken
  · exact absurd taken nofun
  · split at taken
    · rw [← Except.ok.inj taken]
    · exact absurd taken nofun

/-- Other pairs are taken without a look at the limit. -/
theorem take_beside_limit {pair : String × String} (other : pair.1 ≠ "limit_mib")
    (p : UploadParameters) (limitMib : Option Nat) :
    { p with limitMib }.take pair = (p.take pair).map fun q => { q with limitMib } := by
  unfold UploadParameters.take
  split
  · next same => exact absurd same other
  · dsimp only
    split <;> rfl
  · dsimp only
    split <;> rfl
  · rfl

/-- Where the other pairs are taken, all of them come to what the limit alone comes to. -/
theorem foldlM_take_of_others {pairs : List (String × String)} {p q : UploadParameters}
    (others : (otherPairs pairs).foldlM UploadParameters.take p = .ok q) (limitMib : Option Nat) :
    pairs.foldlM UploadParameters.take { p with limitMib } =
      ((limitPairs pairs).foldlM UploadParameters.take { limitMib }).map fun limited =>
        { q with limitMib := limited.limitMib } := by
  induction pairs generalizing p limitMib with
  | nil =>
    rw [← Except.ok.inj others]
    rfl
  | cons pair pairs ih =>
    obtain ⟨key, value⟩ := pair
    by_cases limits : key = "limit_mib"
    · subst limits
      have apart : otherPairs (("limit_mib", value) :: pairs) = otherPairs pairs := rfl
      have first : limitPairs (("limit_mib", value) :: pairs) =
          ("limit_mib", value) :: limitPairs pairs := rfl
      rw [apart] at others
      rw [first, List.foldlM_cons, List.foldlM_cons]
      change (({ p with limitMib }.takeLimit value) >>= _) =
        ((UploadParameters.takeLimit { limitMib } value) >>= _).map _
      rw [takeLimit_alone]
      cases taken : UploadParameters.takeLimit { limitMib } value with
      | error fault => rfl
      | ok limited =>
        rw [eq_of_takeLimit_alone taken]
        exact ih others limited.limitMib
    · have apart : otherPairs ((key, value) :: pairs) = (key, value) :: otherPairs pairs :=
        List.filter_cons_of_pos (bne_iff_ne.mpr limits)
      have first : limitPairs ((key, value) :: pairs) = limitPairs pairs :=
        List.filter_cons_of_neg (by simpa using limits)
      rw [apart, List.foldlM_cons] at others
      rw [first, List.foldlM_cons, take_beside_limit limits]
      cases taken : p.take (key, value) with
      | error fault =>
        rw [taken] at others
        exact absurd others nofun
      | ok next =>
        rw [taken] at others
        exact ih others limitMib

/-- Where nothing but its limit can be wrong with a query, it is read as the limit alone is. -/
theorem ofPairs_of_others {pairs : List (String × String)} {q : UploadParameters}
    (others : UploadParameters.ofPairs (otherPairs pairs) = .ok q) :
    UploadParameters.ofPairs pairs =
      (UploadParameters.limitOfPairs pairs).map fun limitMib => { q with limitMib } := by
  have whole := foldlM_take_of_others others none
  unfold UploadParameters.limitOfPairs UploadParameters.ofPairs
  refine whole.trans ?_
  unfold limitPairs
  cases (pairs.filter fun pair => pair.1 == "limit_mib").foldlM UploadParameters.take {} <;> rfl

/-! ## Requests of one form -/

/-- A request inspects what another one is to store: the same field of the same form, received under
the same limit. -/
structure Foretells (told asked : Request) (escaped : Bytes) : Prop where
  inspects : told.method = "POST" ∧ Route.ofPath? (path told.target) = some (.inspect escaped)
  stores : asked.method = "POST" ∧ Route.ofPath? (path asked.target) = some (.upload escaped)
  headers : told.headers = asked.headers
  body : told.body = asked.body
  limit : limitPairs (pairs (query told.target)) = limitPairs (pairs (query asked.target))

/-- The save that a request names is accepted, before anything is received. -/
def AcceptsTarget (request : Request) : Prop :=
  ∃ parameters target,
    UploadParameters.ofPairs (otherPairs (pairs (query request.target))) = .ok parameters ∧
      destination parameters = .ok target

/-- Both requests are refused alike for the name of the field or the limit, or both are read. -/
theorem Foretells.arguments_cases {told asked : Request} {escaped : Bytes}
    (same : Foretells told asked escaped) (accepted : AcceptsTarget asked) :
    (∃ response, response.status = 400 ∧ inspectArguments escaped told = .error response ∧
      uploadArguments escaped asked = .error response) ∨
    ∃ field parameters target,
      inspectArguments escaped told = .ok (field, parameters.limitMib) ∧
        uploadArguments escaped asked = .ok (field, parameters) ∧
        destination parameters = .ok target := by
  obtain ⟨others, target, read, asks⟩ := accepted
  have limit : UploadParameters.limitOfPairs (pairs (query told.target)) =
      UploadParameters.limitOfPairs (pairs (query asked.target)) :=
    congrArg (fun limits => (UploadParameters.ofPairs limits).map _) same.limit
  unfold inspectArguments uploadArguments
  rw [limit, ofPairs_of_others read]
  cases named : fieldName escaped with
  | error response =>
    refine .inl ⟨response, ?_, rfl, rfl⟩
    unfold fieldName at named
    split at named
    · exact absurd named nofun
    · rw [← Except.error.inj named]
      rfl
  | ok field =>
    cases UploadParameters.limitOfPairs (pairs (query asked.target)) with
    | error fault => exact .inl ⟨_, rfl, rfl, rfl⟩
    | ok limitMib => exact .inr ⟨field, { others with limitMib }, target, rfl, rfl, asks⟩

theorem Foretells.receive_eq [Memory] {told asked : Request} {escaped : Bytes}
    (same : Foretells told asked escaped) (config : Config) (field : String)
    (limitMib : Option Nat) :
    receive config field limitMib told = receive config field limitMib asked := by
  unfold receive
  rw [same.headers, same.body]

/-! ## Storing what was received -/

section

variable [Memory] {config : Config} {fs : FileSystem} {field : String}
  {parameters : UploadParameters} {request : Request} {broken : Option BrokenWrite}
  {target : Destination}

/-- Nothing is stored that was not received. -/
theorem storeUpload_of_unreceived (fs : FileSystem) (asked : destination parameters = .ok target)
    {failure : Failure}
    (failed : (receive config field parameters.limitMib request).result = .error failure) :
    (storeUpload config fs field parameters request broken).1 = fs ∧
      (storeUpload config fs field parameters request broken).2.result = .error failure := by
  apply storeUpload_of_refused
  rw [receiveFor_result, asked, Except.bind, failed, Except.bind]

/-- What was received is stored and told of, or its save fails and changes nothing, also if its
write is what fails. -/
theorem storeUpload_of_received_ok (fs : FileSystem) (asked : destination parameters = .ok target)
    {upload : Upload}
    (received : (receive config field parameters.limitMib request).result = .ok upload)
    (broken : Option BrokenWrite) :
    (∃ savedAs, (storeUpload config fs field parameters request broken).2.result =
      .ok (.json 201 (metadata upload.artifact (some savedAs)))) ∨
    ∃ failure, failure.OfSave ∧
      (storeUpload config fs field parameters request broken).2.result = .error failure ∧
        (storeUpload config fs field parameters request broken).1 = fs := by
  have checked : (receiveFor config field parameters request).result =
      (upload.locate target).map fun _ => (upload, target) := by
    rw [receiveFor_result, asked, Except.bind, received, Except.bind, contained_eq_map asked]
    cases upload.locate target <;> rfl
  cases located : upload.locate target with
  | error failure =>
    rw [located] at checked
    obtain ⟨same, failed⟩ := storeUpload_of_refused fs checked
    obtain ⟨message, rfl⟩ := Destination.resolve_eq_error located
    exact .inr ⟨_, .unusable message, failed, same⟩
  | ok path =>
    rw [located] at checked
    obtain ⟨after, told⟩ := storeUpload_of_received fs checked
    cases saved : (upload.saveTo fs target broken).2.result with
    | error failure =>
      rw [saved] at told
      exact .inr ⟨failure, Upload.ofSave_of_saveTo saved, told,
        after.trans (Upload.saveTo_eq_error saved)⟩
    | ok path =>
      obtain ⟨-, dir, name, free, stands, -⟩ := Upload.saveTo_eq_ok saved
      rw [saved] at told
      refine .inl ⟨Utf8.decodeLossy name, told.trans ?_⟩
      rw [Except.map, FileSystem.fileName_of_parent stands, Option.map_some]

end

/-! ## Documented statuses -/

variable (config : Config) (fs : FileSystem) (broken : Option BrokenWrite)

/-- Inspecting changes nothing and is answered with a status that the service describes. -/
theorem status_of_inspect [Memory] {request : Request} {escaped : Bytes}
    (posted : request.method = "POST")
    (known : Route.ofPath? (path request.target) = some (.inspect escaped)) :
    (handle config fs request broken).1 = fs ∧
      (handle config fs request broken).2.2.status ∈ [200, 400, 413, 500] := by
  rw [handle_of_posted posted known rfl, answer]
  cases read : inspectArguments escaped request with
  | error response =>
    have status : response.status = 400 := status_of_arguments read
    exact ⟨rfl, by simp [status]⟩
  | ok both =>
    obtain ⟨field, limitMib⟩ := both
    refine ⟨rfl, ?_⟩
    dsimp only
    unfold inspectUpload
    cases ended : (receive config field limitMib request).result with
    | error failure =>
      rw [Traced.bind_of_error ended]
      exact List.mem_cons_of_mem _ (Upload.ofReceipt_of_receive ended).status_mem
    | ok upload =>
      rw [Traced.bind_of_ok ended]
      exact List.mem_cons_self ..

/-- A save that is not accepted is refused as a bad request. -/
theorem destination_eq_error {parameters : UploadParameters} {failure : Failure}
    (refused : destination parameters = .error failure) :
    ∃ message, failure = .badRequest message := by
  have ofTarget {parameter value : String} {make : FilePath → Destination}
      (refused : (relativeTarget parameter value).map make = .error failure) :
      ∃ message, failure = .badRequest message := by
    rcases relativeTarget_cases parameter value with ⟨-, accepted⟩ | ⟨-, message, told⟩
    · rw [accepted] at refused
      exact absurd refused nofun
    · rw [told] at refused
      exact ⟨message, (Except.error.inj refused).symm⟩
  unfold destination at refused
  split at refused
  · exact ⟨_, (Except.error.inj refused).symm⟩
  · exact ofTarget refused
  · exact ofTarget refused
  · exact absurd refused nofun

/-- Storing is answered with a status that the service describes. -/
theorem status_of_upload [Memory] {request : Request} {escaped : Bytes}
    (posted : request.method = "POST")
    (known : Route.ofPath? (path request.target) = some (.upload escaped)) :
    (handle config fs request broken).2.2.status ∈ [201, 400, 409, 413, 500] := by
  have described : ∀ status ∈ [400, 413, 500] ++ [400, 409, 500],
      status ∈ [201, 400, 409, 413, 500] := by decide
  rw [handle_of_posted posted known rfl, answer]
  cases read : uploadArguments escaped request with
  | error response =>
    have status : response.status = 400 := status_of_arguments read
    simp [status]
  | ok both =>
    obtain ⟨field, parameters⟩ := both
    dsimp only [Response.ofTraced]
    cases asked : destination parameters with
    | error failure =>
      have refused : (receiveFor config field parameters request).result = .error failure := by
        rw [receiveFor_result, asked, Except.bind]
      obtain ⟨message, rfl⟩ := destination_eq_error asked
      rw [(storeUpload_of_refused fs refused).2]
      exact described 400 (by simp)
    | ok target =>
      cases ended : (receive config field parameters.limitMib request).result with
      | error failure =>
        have status := (Upload.ofReceipt_of_receive ended).status_mem
        rw [(storeUpload_of_unreceived fs asked ended).2]
        exact described _ (List.mem_append_left _ status)
      | ok upload =>
        rcases storeUpload_of_received_ok fs asked ended broken with
          ⟨savedAs, told⟩ | ⟨failure, saving, failed, -⟩
        · rw [told]
          exact List.mem_cons_self ..
        · rw [failed]
          exact described _ (List.mem_append_right _ saving.status_mem)

/-! ## Both routes -/

/-- A request to inspect that fails is answered as a request to store the same form, which changes
nothing then; one that succeeds tells the metadata that storing tells with the name of the file,
unless the save fails. -/
theorem Foretells.answers [Memory] {told asked : Request} {escaped : Bytes}
    (same : Foretells told asked escaped) (accepted : AcceptsTarget asked) :
    ((handle config fs told).2.2.status ≠ 200 →
      (handle config fs asked broken).2.2 = (handle config fs told).2.2 ∧
        (handle config fs asked broken).1 = fs) ∧
    ((handle config fs told).2.2.status = 200 → ∃ artifact,
      (handle config fs told).2.2 = .json 200 (metadata artifact none) ∧
      ((∃ savedAs, (handle config fs asked broken).2.2 =
          .json 201 (metadata artifact (some savedAs))) ∨
        ∃ failure, failure.OfSave ∧ failure.status ∈ [400, 409, 500] ∧
          (handle config fs asked broken).2.2 = .ofFailure failure ∧
          (handle config fs asked broken).1 = fs)) := by
  rw [handle_of_posted same.inspects.1 same.inspects.2 rfl,
    handle_of_posted same.stores.1 same.stores.2 rfl, answer, answer]
  rcases same.arguments_cases accepted with
    ⟨response, status, inspects, stores⟩ | ⟨field, parameters, target, inspects, stores, asks⟩
  · rw [inspects, stores]
    refine ⟨fun _ => ⟨rfl, rfl⟩, fun success => ?_⟩
    exact absurd (status.symm.trans success) (by decide)
  · rw [inspects, stores]
    dsimp only [Response.ofTraced, inspectUpload]
    rw [same.receive_eq]
    cases received : (receive config field parameters.limitMib asked).result with
    | error failure =>
      obtain ⟨unchanged, failed⟩ := storeUpload_of_unreceived fs asks received
      rw [Traced.bind_of_error received, failed]
      refine ⟨fun _ => ⟨rfl, unchanged⟩, fun success => ?_⟩
      have refused := status_ge_of_failure failure
      have status : failure.status = 200 := success
      omega
    | ok upload =>
      rw [Traced.bind_of_ok received]
      refine ⟨fun failed => absurd rfl failed, fun _ => ⟨upload.artifact, rfl, ?_⟩⟩
      rcases storeUpload_of_received_ok fs asks received broken with
        ⟨savedAs, stored⟩ | ⟨failure, saving, failed, unchanged⟩
      · rw [stored]
        exact .inl ⟨savedAs, rfl⟩
      · rw [failed]
        exact .inr ⟨failure, saving, saving.status_mem, rfl, unchanged⟩

/-- Inspecting foretells storing. A request to inspect and one to store the same field of the same
form, under the same limit and with a save that is accepted, are answered alike if the first one
fails, and then the second changes nothing. If the first succeeds, the second tells the same
metadata and the name of the file besides, or its save fails and changes nothing, be it that its
write breaks off. Any request to inspect changes nothing, and both routes answer with just the
statuses that the service describes. -/
theorem inspection_foretells [Memory] :
    (∀ told asked escaped broken, Foretells told asked escaped → AcceptsTarget asked →
      ((handle config fs told).2.2.status ≠ 200 →
        (handle config fs asked broken).2.2 = (handle config fs told).2.2 ∧
          (handle config fs asked broken).1 = fs) ∧
      ((handle config fs told).2.2.status = 200 → ∃ artifact,
        (handle config fs told).2.2 = .json 200 (metadata artifact none) ∧
        ((∃ savedAs, (handle config fs asked broken).2.2 =
            .json 201 (metadata artifact (some savedAs))) ∨
          ∃ failure, failure.OfSave ∧ failure.status ∈ [400, 409, 500] ∧
            (handle config fs asked broken).2.2 = .ofFailure failure ∧
            (handle config fs asked broken).1 = fs))) ∧
    (∀ request escaped broken, request.method = "POST" →
      Route.ofPath? (path request.target) = some (.inspect escaped) →
      (handle config fs request broken).1 = fs ∧
        (handle config fs request broken).2.2.status ∈ [200, 400, 413, 500]) ∧
    (∀ request escaped broken, request.method = "POST" →
      Route.ofPath? (path request.target) = some (.upload escaped) →
      (handle config fs request broken).2.2.status ∈ [201, 400, 409, 413, 500]) ∧
    ApiDescription.statuses "/uploads/\x7bfield\x7d/inspect" =
      [200, 400, 413, 500].map toString ∧
    ApiDescription.statuses "/uploads/\x7bfield\x7d" =
      [201, 400, 409, 413, 500].map toString := by
  refine ⟨?_, ?_, ?_, ?_, ?_⟩
  · intro told asked escaped broken same accepted
    exact same.answers config fs broken accepted
  · intro request escaped broken posted known
    exact status_of_inspect config fs broken posted known
  · intro request escaped broken posted known
    exact status_of_upload config fs broken posted known
  · decide
  · decide

/-- A form of two octets is inspected with success where it can be stored. Both answers tell the
same metadata, and if the write breaks off instead, nothing is changed. -/
theorem inspection_foretells_stored :
    Foretells inspectRequest storeRequest [0x61] ∧ AcceptsTarget storeRequest ∧
      ∃ artifact savedAs failure,
        (handle (smallConfig (.ofString "s")) oneDirectory inspectRequest).2.2 =
          .json 200 (metadata artifact none) ∧
        (handle (smallConfig (.ofString "s")) oneDirectory storeRequest).2.2 =
          .json 201 (metadata artifact (some savedAs)) ∧
        failure.OfSave ∧ failure.status = 500 ∧
        (handle (smallConfig (.ofString "s")) oneDirectory storeRequest
          (some ⟨[0x68], .other "no room"⟩)).2.2 = .ofFailure failure ∧
        (handle (smallConfig (.ofString "s")) oneDirectory storeRequest
          (some ⟨[0x68], .other "no room"⟩)).1 = oneDirectory := by
  have same : Foretells inspectRequest storeRequest [0x61] :=
    ⟨⟨rfl, by decide⟩, ⟨rfl, by decide⟩, rfl, rfl, by decide +kernel⟩
  have accepted : AcceptsTarget storeRequest := by
    have given : otherPairs (pairs (query storeRequest.target)) = [("save_as", "x")] := by
      decide +kernel
    refine ⟨{ saveAs := some "x" }, .renamed "x", ?_, rfl⟩
    rw [given]
    rfl
  obtain ⟨answers, statuses, -⟩ :=
    inspection_foretells (smallConfig (.ofString "s")) oneDirectory
  obtain ⟨fails, succeeds⟩ := answers _ _ _ none same accepted
  have stored := status_storeRequest_oneDirectory none
  have refused := status_storeRequest_oneDirectory (some ⟨[0x68], .other "no room"⟩)
  -- a failure would be told to the request that stores as well, which is answered 201
  have success : (handle (smallConfig (.ofString "s")) oneDirectory
      inspectRequest).2.2.status = 200 := by
    by_contra failed
    have told := (statuses inspectRequest [0x61] none rfl same.inspects.2).2
    rw [(fails failed).1] at stored
    rw [stored] at told
    exact absurd told (by decide)
  obtain ⟨artifact, told, ⟨savedAs, answered⟩ | ⟨failure, -, -, answered, -⟩⟩ :=
    succeeds success
  · obtain ⟨_, -, ⟨other, finished⟩ | ⟨failure, saving, -, failed, unchanged⟩⟩ :=
      (answers _ _ _ (some ⟨[0x68], .other "no room"⟩) same accepted).2 success
    · rw [finished] at refused
      exact absurd refused (by simp [Response.json])
    · have status : failure.status = 500 := (congrArg Response.status failed).symm.trans refused
      exact ⟨same, accepted, artifact, savedAs, failure, told, answered, saving, status, failed,
        unchanged⟩
  · rw [answered] at stored
    exact absurd stored (status_ne_created failure)

end Http

end Intake
