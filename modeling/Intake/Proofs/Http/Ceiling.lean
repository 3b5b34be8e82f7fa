import Intake.Proofs.Http.Exchanges
import Mathlib.Algebra.Order.Ring.Nat

/-!
# No upload is larger than its ceiling

Whatever a client declares, sends or asks for, what is received of it is no larger than the limit
it is received under. That limit is the configured ceiling, or one that the caller puts in its
place; a request can only ask for a lower one.

* `ofPairs_heeds`, `limitOfPairs_heeds`: a limit that a query names is the one that counts.
* `reports_of_handle`: what a route tells of with success is an upload that was received.
* `size_le_ceiling`: the sizes of uploads, and the ones that responses tell.
-/

namespace Intake

/-! ## Uploads -/

namespace Upload

/-- An upload that is handed out was received. -/
theorem of_paired {result : Except Failure Upload} {upload : Upload} {message : String}
    (handed : paired result = (some upload, message)) : result = .ok upload := by
  cases result with
  | error failure => cases handed
  | ok received => cases handed; rfl

end Upload

theorem ByteSize.mib_eq : mib = 2 ^ 20 := by decide

namespace FileLimits

variable (limits : FileLimits) (mib : Nat)

theorem limit_settings_some : (limits.settings (some mib)).limit = ByteSize.ofMib mib := by
  rw [settings, Option.map_some, Option.getD_some]

/-- A limit that the caller names is no larger than it says. -/
theorem limit_settings_some_le : (limits.settings (some mib)).limit ≤ mib * 2 ^ 20 := by
  rw [limit_settings_some, ← ByteSize.mib_eq]
  exact ByteSize.ofMib_le mib

/-- Neither is one that a request names. -/
theorem limit_cappedSettings_some_le :
    (limits.cappedSettings (some mib)).limit ≤ mib * 2 ^ 20 :=
  Nat.le_trans (Nat.min_le_left ..) (limits.limit_settings_some_le mib)

end FileLimits

namespace Http

/-! ## Limits in a query -/

/-- A limit is the one that pairs of a query name, if they name one. -/
def Heeds (pairs : List (String × String)) (limitMib : Option Nat) : Prop :=
  ∀ value, ("limit_mib", value) ∈ pairs → ∃ mib, Text.readNumeral value = .ok mib ∧
    limitMib = some mib

/-- Other pairs do not change the limit. -/
theorem limitMib_of_take {p q : UploadParameters} {pair : String × String}
    (other : pair.1 ≠ "limit_mib") (taken : p.take pair = .ok q) : q.limitMib = p.limitMib := by
  unfold UploadParameters.take at taken
  split at taken
  · next same => exact absurd same other
  · split at taken
    · cases taken
    · cases taken
      rfl
  · split at taken
    · cases taken
    · cases taken
      rfl
  · cases taken
    rfl

/-- A limit is taken where none was before. -/
theorem takeLimit_eq_ok {p q : UploadParameters} {value : String}
    (taken : p.takeLimit value = .ok q) :
    p.limitMib = none ∧ ∃ mib, Text.readNumeral value = .ok mib ∧ q.limitMib = some mib := by
  unfold UploadParameters.takeLimit at taken
  split at taken
  · cases taken
  · next fresh =>
    split at taken
    · next mib read =>
      cases taken
      exact ⟨Option.not_isSome_iff_eq_none.mp fresh, mib, read, rfl⟩
    · cases taken

/-- Taking a pair keeps a limit that was taken before, and heeds the pair. -/
theorem take_heeds {p q : UploadParameters} {pair : String × String}
    (taken : p.take pair = .ok q) :
    (∀ mib, p.limitMib = some mib → q.limitMib = some mib) ∧
      (pair.1 = "limit_mib" → ∃ mib, Text.readNumeral pair.2 = .ok mib ∧
        q.limitMib = some mib) := by
  by_cases names : pair.1 = "limit_mib"
  · obtain ⟨key, value⟩ := pair
    obtain rfl : key = "limit_mib" := names
    obtain ⟨fresh, mib, read, given⟩ := takeLimit_eq_ok taken
    constructor
    · intro other before
      rw [fresh] at before
      cases before
    · exact fun _ => ⟨mib, read, given⟩
  · constructor
    · intro mib before
      rw [limitMib_of_take names taken, before]
    · exact fun same => absurd same names

/-- Where taking a pair keeps a parameter that was taken before and heeds the pair, taking pairs
does. -/
theorem foldlM_take_heeds {α : Type} {key : String} {get : UploadParameters → Option α}
    {R : String → α → Prop}
    (step : ∀ {p q : UploadParameters} {pair : String × String}, p.take pair = .ok q →
      (∀ a, get p = some a → get q = some a) ∧
        (pair.1 = key → ∃ a, R pair.2 a ∧ get q = some a))
    {pairs : List (String × String)} {p q : UploadParameters}
    (taken : pairs.foldlM UploadParameters.take p = .ok q) :
    (∀ a, get p = some a → get q = some a) ∧
      ∀ value, (key, value) ∈ pairs → ∃ a, R value a ∧ get q = some a := by
  induction pairs generalizing p with
  | nil =>
    cases taken
    exact ⟨fun _ before => before, nofun⟩
  | cons pair pairs ih =>
    rw [List.foldlM_cons] at taken
    cases first : p.take pair with
    | error fault => rw [first] at taken; cases taken
    | ok next =>
      rw [first] at taken
      obtain ⟨kept, heeds⟩ := ih taken
      obtain ⟨keptFirst, heedsFirst⟩ := step first
      constructor
      · intro a before
        exact kept a (keptFirst a before)
      · intro value member
        rcases List.mem_cons.mp member with rfl | later
        · obtain ⟨a, read, given⟩ := heedsFirst rfl
          exact ⟨a, read, kept a given⟩
        · exact heeds value later

/-- The parameters of a query heed the limit that it names. -/
theorem ofPairs_heeds {pairs : List (String × String)} {parameters : UploadParameters}
    (taken : UploadParameters.ofPairs pairs = .ok parameters) : Heeds pairs parameters.limitMib :=
  (foldlM_take_heeds take_heeds taken).2

/-- So does the limit alone, where no other parameter is known. -/
theorem limitOfPairs_heeds {pairs : List (String × String)} {limitMib : Option Nat}
    (taken : UploadParameters.limitOfPairs pairs = .ok limitMib) : Heeds pairs limitMib := by
  unfold UploadParameters.limitOfPairs at taken
  cases read : UploadParameters.ofPairs (pairs.filter fun pair => pair.1 == "limit_mib") with
  | error fault => rw [read] at taken; cases taken
  | ok parameters =>
    rw [read] at taken
    cases taken
    intro value member
    exact ofPairs_heeds read value (List.mem_filter.mpr ⟨member, beq_self_eq_true _⟩)

/-! ## Responses -/

/-- A response tells the size of an upload that was received for the request, under the limit
that its query names. -/
def Reports [Memory] (config : Config) (request : Request) (response : Response) : Prop :=
  ∃ field limitMib upload, Heeds (pairs (query request.target)) limitMib ∧
    (receive config field limitMib request).result = .ok upload ∧
    response.field? "size" = some (.number upload.artifact.size)

variable {config : Config} {request : Request} {response : Response}

/-- A response that reports an upload tells a size within the ceiling, and within the limit that
the request names. -/
theorem Reports.size_le [Memory] (reports : Reports config request response) :
    ∃ size, response.field? "size" = some (.number size) ∧ size ≤ config.files.maxFileSize ∧
      ∀ value, ("limit_mib", value) ∈ pairs (query request.target) →
        ∃ mib, Text.readNumeral value = .ok mib ∧ size ≤ mib * 2 ^ 20 := by
  obtain ⟨field, limitMib, upload, heeds, received, told⟩ := reports
  have within := Upload.size_le_of_receive received
  refine ⟨upload.artifact.size, told, ?_, ?_⟩
  · exact Nat.le_trans within (config.files.limit_cappedSettings_le limitMib)
  · intro value named
    obtain ⟨mib, read, rfl⟩ := heeds value named
    exact ⟨mib, read, Nat.le_trans within (config.files.limit_cappedSettings_some_le mib)⟩

/-- Arguments that were read hold the parameters of the query. -/
theorem parameters_of_arguments {α : Type} {escaped : Bytes} {parameters : Except QueryFault α}
    {field : String} {a : α}
    (h : (do
      let field ← fieldName escaped
      let a ← parametersOr parameters
      return (field, a)) = Except.ok (field, a)) : parameters = .ok a := by
  unfold fieldName at h
  split at h
  · cases parameters <;> cases h
    rfl
  · cases h

/-- What a request that stores is told with success is the size of what was received for it. -/
theorem reports_of_upload [Memory] {fs : FileSystem} (broken : Option BrokenWrite)
    {escaped : Bytes}
    (success : (answer config fs request broken (.upload escaped)).2.2.status < 400) :
    Reports config request (answer config fs request broken (.upload escaped)).2.2 := by
  rw [answer] at success ⊢
  cases read : uploadArguments escaped request with
  | error refused =>
    rw [read] at success
    have status : refused.status = 400 := status_of_arguments read
    exact absurd success (Nat.not_lt.mpr (Nat.le_of_eq status.symm))
  | ok both =>
    obtain ⟨field, parameters⟩ := both
    rw [read] at success
    dsimp only [Response.ofTraced] at success ⊢
    rcases storeUpload_cases config fs field parameters request broken with
      ⟨failure, failed, -⟩ | ⟨upload, target, path, received, -, -, told⟩
    · rw [failed] at success
      exact absurd success (Nat.not_lt.mpr (status_ge_of_failure failure))
    · rw [told]
      have heeds := ofPairs_heeds (parameters_of_arguments read)
      exact ⟨field, parameters.limitMib, upload, heeds, (receiveFor_eq_ok received).2,
        field?_size ..⟩

/-- So is what a request that inspects is told. -/
theorem reports_of_inspect [Memory] {fs : FileSystem} (broken : Option BrokenWrite)
    {escaped : Bytes}
    (success : (answer config fs request broken (.inspect escaped)).2.2.status < 400) :
    Reports config request (answer config fs request broken (.inspect escaped)).2.2 := by
  rw [answer] at success ⊢
  cases read : inspectArguments escaped request with
  | error refused =>
    rw [read] at success
    have status : refused.status = 400 := status_of_arguments read
    exact absurd success (Nat.not_lt.mpr (Nat.le_of_eq status.symm))
  | ok both =>
    obtain ⟨field, limitMib⟩ := both
    rw [read] at success
    dsimp only [Response.ofTraced] at success ⊢
    cases ended : (inspectUpload config field limitMib request).result with
    | error failure =>
      rw [ended] at success
      exact absurd success (Nat.not_lt.mpr (status_ge_of_failure failure))
    | ok response =>
      obtain ⟨upload, received, told⟩ := Traced.result_bind_eq_ok_iff.mp ended
      cases told
      have heeds := limitOfPairs_heeds (parameters_of_arguments read)
      exact ⟨field, limitMib, upload, heeds, received, field?_size ..⟩

/-- A request to one of the routes of uploads that is answered with success is told the size of
what was received for it. -/
theorem reports_of_handle [Memory] {fs : FileSystem} {broken : Option BrokenWrite} {escaped : Bytes}
    (routed : Route.ofPath? (path request.target) = some (.upload escaped) ∨
      Route.ofPath? (path request.target) = some (.inspect escaped))
    (success : (handle config fs request broken).2.2.status < 400) :
    Reports config request (handle config fs request broken).2.2 := by
  have plain {route : Route} (allowed : request.method ∈ route.methods)
      (posts : route.methods = ["POST"]) : request.method ≠ "HEAD" := by
    rw [posts, List.mem_singleton] at allowed
    rw [allowed]
    decide
  unfold handle at success ⊢
  rcases routed with known | known
  · rw [known] at success ⊢
    dsimp only at success ⊢
    split at success
    · next allowed =>
      rw [if_pos allowed]
      rw [if_neg (plain allowed rfl)] at success ⊢
      exact reports_of_upload broken success
    · exact absurd success (by simp [Response.methodNotAllowed])
  · rw [known] at success ⊢
    dsimp only at success ⊢
    split at success
    · next allowed =>
      rw [if_pos allowed]
      rw [if_neg (plain allowed rfl)] at success ⊢
      exact reports_of_inspect broken success
    · exact absurd success (by simp [Response.methodNotAllowed])

/-- No upload is larger than its ceiling: one that is received than its settings allow, one that
is handed out than the limit that the caller named, or the configured ceiling where none was, and
one that a response tells of than the configured ceiling and the limit that the request named. -/
theorem size_le_ceiling [Memory] :
    (∀ headers body baseDir field settings upload,
      (Upload.receive headers body baseDir field settings).result = .ok upload →
        upload.artifact.size = upload.artifact.bytes.length ∧
        upload.artifact.size ≤ settings.limit) ∧
    (∀ headers body baseDir field limitMib limits upload message,
      Upload.paired (Upload.receiveWith headers body baseDir field limitMib limits).result =
          (some upload, message) →
        upload.artifact.size ≤
          match limitMib with
          | some mib => mib * 2 ^ 20
          | none => limits.maxFileSize) ∧
    ∀ config fs request broken escaped,
      Route.ofPath? (path request.target) = some (.upload escaped) ∨
          Route.ofPath? (path request.target) = some (.inspect escaped) →
        (handle config fs request broken).2.2.status = 200 ∨
          (handle config fs request broken).2.2.status = 201 →
        ∃ size, (handle config fs request broken).2.2.field? "size" = some (.number size) ∧
          size ≤ config.files.maxFileSize ∧
          ∀ value, ("limit_mib", value) ∈ pairs (query request.target) →
            ∃ mib, Text.readNumeral value = .ok mib ∧ size ≤ mib * 2 ^ 20 := by
  refine ⟨?_, ?_, ?_⟩
  · intro headers body baseDir field settings upload received
    exact ⟨rfl, Upload.size_le_of_receive received⟩
  · intro headers body baseDir field limitMib limits upload message handed
    have within := Upload.size_le_of_receive (Upload.of_paired handed)
    cases limitMib with
    | none => exact within
    | some mib => exact Nat.le_trans within (limits.limit_settings_some_le mib)
  · intro config fs request broken escaped routed status
    have success : (handle config fs request broken).2.2.status < 400 := by omega
    exact (reports_of_handle routed success).size_le

/-- A form of two octets is received under a limit of two, handed out under a limit of 1 MiB that
the caller put in the place of a lower one, and stored and told of by a server that receives no
more. -/
theorem size_le_ceiling_full :
    (∃ upload, (Upload.receive storeRequest.headers storeRequest.body (.ofString "s") "a"
        ⟨2, 2, 1, 20⟩).result = .ok upload ∧
      upload.artifact.size = 2 ∧ upload.artifact.size ≤ 2) ∧
    (∃ upload, Upload.paired (Upload.receiveWith storeRequest.headers storeRequest.body
        (.ofString "s") "a" (some 1) { maxFileSize := 1 }).result = (some upload, "") ∧
      upload.artifact.size = 2 ∧ upload.artifact.size ≤ 1 * 2 ^ 20) ∧
    (handle (smallConfig (.ofString "s")) oneDirectory storeRequest).2.2.status = 201 ∧
    ∃ size, (handle (smallConfig (.ofString "s")) oneDirectory storeRequest).2.2.field? "size" =
      some (.number size) ∧ size ≤ 2 := by
  obtain ⟨ofReceive, ofReceiveWith, ofHandle⟩ := size_le_ceiling
  have received := receive_storeRequest (.ofString "s")
  have handed : Upload.paired (Upload.receiveWith storeRequest.headers storeRequest.body
      (.ofString "s") "a" (some 1) { maxFileSize := 1 }).result =
        (some ⟨Upload.twoOctets.received, .ofString "s"⟩, "") :=
    congrArg Upload.paired (Upload.receive_single (p := Upload.twoOctets)
      Upload.announceable_letter (FormData.first?_announcement "B" []) Upload.writable_twoOctets
      (.atOnce _ _) rfl (by decide) (Upload.not_overdeclares_announcement _))
  have stored := status_storeRequest_oneDirectory none
  obtain ⟨size, told, within, -⟩ := ofHandle (smallConfig (.ofString "s")) oneDirectory
    storeRequest none [0x61] (.inl ofPath?_storeRequest) (.inr stored)
  exact ⟨⟨_, received, rfl, (ofReceive _ _ _ _ _ _ received).2⟩,
    ⟨_, handed, rfl, ofReceiveWith _ _ _ _ _ _ _ _ handed⟩, stored, size, told, within⟩

end Http

end Intake
