import Intake.Proofs.Http.Ceiling
import Intake.Proofs.Upload.Declaration

/-!
# Ceilings that cannot be reserved

The buffer of an upload is reserved at its ceiling once the wanted part comes up in the form, and
an upload fails internally just if that is refused. A buffer of 2 ^ 63 octets or more is always
refused, yet the check of a configuration turns down no ceiling but 0.

* `reserve_eq_error_iff`: which sizes are refused, and why.
* `receive_eq_internal_iff`: when an upload fails internally.
* `internal_iff_of_memory`: when a request does, where the machine has the memory for it.
* `internal_of_valid`: a server with a valid configuration fails internally for any field.
-/

namespace Intake

/-! ## Reservations -/

/-- A buffer is refused if none can be that large, or if there is not that much memory. -/
theorem BoundedBuffer.reserve_eq_error_iff [Memory] {limit : Nat} {fault : ReserveFault} :
    reserve limit = .error fault ↔
      (fault = .capacityOverflow ∧ Word.signedLimit ≤ limit) ∨
        (fault = .outOfMemory ∧ limit < Word.signedLimit ∧ Memory.grants limit = false) := by
  unfold reserve
  by_cases huge : Word.signedLimit ≤ limit
  · rw [if_pos huge]
    have beyond : ¬ limit < Word.signedLimit := Nat.not_lt.mpr huge
    simp [huge, beyond, eq_comm (a := fault)]
  · rw [if_neg huge]
    cases granted : Memory.grants limit with
    | true => simp [huge]
    | false => simp [huge, Nat.lt_of_not_le huge, eq_comm]

namespace UploadDescriptor

/-- What failed when a buffer at the limit is refused. -/
def unreserved (d : UploadDescriptor) (fault : ReserveFault) : String :=
  "reserve an upload buffer of " ++ ByteSize.describe d.limit ++ ": " ++ fault.message

/-- The wanted part comes up in a form, and nothing in front of it has the upload given up. -/
inductive Reaches (d : UploadDescriptor) : FormData.Form → Prop
  | part {head : FormData.PartHead} {frames : List Bytes} {rest : FormData.Form}
      (wanted : d.wants head = true) : Reaches d (.part head frames rest)
  | broken {head : FormData.PartHead} {frames : List Bytes} {fault : FormData.Fault}
      (wanted : d.wants head = true) : Reaches d (.broken head frames fault)
  | behind {head : FormData.PartHead} {frames : List Bytes} {rest : FormData.Form}
      (other : d.wants head = false) (short : d.exceedsCap frames = false)
      (reached : Reaches d rest) : Reaches d (.part head frames rest)

variable {d : UploadDescriptor} {chunkSize : Nat} {operation : String}

/-- In a form that carries parts the first one with the wanted name comes up, if no part in front
of it is longer than the memory cap. -/
theorem reaches_of_carries {form : FormData.Form} {parts : List FormData.Part}
    (carries : form.Carries parts) (found : ∃ p ∈ parts, p.name = d.field)
    (short : ∀ p ∈ d.skipped parts, p.content.length ≤ d.memoryCap) : d.Reaches form := by
  induction carries with
  | closed =>
    obtain ⟨p, member, -⟩ := found
    cases member
  | @part p parts frames rest content _ ih =>
    by_cases name : p.name = d.field
    · exact .part (by simp [wants, FormData.Part.readHead, FormData.Part.head, name])
    · have later : d.skipped (p :: parts) = p :: d.skipped parts := by simp [skipped, name]
      rw [later] at short
      have skips : d.Skips p := ⟨name, short p (List.mem_cons_self ..)⟩
      refine .behind skips.wants_eq_false
        (skips.exceedsCap_eq_false (content ▸ List.prefix_refl _)) (ih ?_ ?_)
      · obtain ⟨q, member, wanted⟩ := found
        rcases List.mem_cons.mp member with rfl | inside
        · exact absurd wanted name
        · exact ⟨q, inside, wanted⟩
      · exact fun q member => short q (List.mem_cons_of_mem _ member)

/-! ## Internal failures -/

theorem ofFault_ne_internal (fault : FormData.Fault) (operation : String) :
    Failure.ofFault fault ≠ .internal operation := by
  cases fault <;> exact nofun

theorem abort_ne_internal (fault : FormData.Fault) :
    (d.abort fault : Traced Artifact).result ≠ .error (.internal operation) :=
  fun same => ofFault_ne_internal fault operation (Except.error.inj same)

/-- The wanted part fails internally just if its buffer is refused. -/
theorem receivePart_eq_internal_iff [Memory] {head : FormData.PartHead} {frames : List Bytes}
    {ending : Option FormData.Fault} :
    (d.receivePart chunkSize head frames ending).result = .error (.internal operation) ↔
      ∃ fault, BoundedBuffer.reserve d.limit = .error fault ∧ operation = d.unreserved fault := by
  cases reserved : BoundedBuffer.reserve d.limit with
  | error fault =>
    rw [receivePart, reserved]
    constructor
    · intro failed
      cases failed
      exact ⟨fault, rfl, rfl⟩
    · rintro ⟨_, ⟨⟩, rfl⟩
      rfl
  | ok buffer =>
    refine iff_of_false (fun failed => ?_) (by rintro ⟨fault, ⟨⟩, -⟩)
    rcases Nat.lt_or_ge d.limit frames.flatten.length with long | fits
    · obtain ⟨received, -, -, refused⟩ := receivePart_of_overflow reserved long
      rw [refused] at failed
      cases failed
    · rw [receivePart_of_fits reserved fits] at failed
      cases ending with
      | none => cases failed
      | some fault => exact ofFault_ne_internal fault operation (Except.error.inj failed)

/-- Reading a form fails internally just if the wanted part comes up and its buffer is refused. -/
theorem receiveField_eq_internal_iff [Memory] {form : FormData.Form} :
    (d.receiveField chunkSize form).result = .error (.internal operation) ↔
      d.Reaches form ∧
        ∃ fault, BoundedBuffer.reserve d.limit = .error fault ∧ operation = d.unreserved fault := by
  induction form with
  | closed => exact iff_of_false nofun (by rintro ⟨⟨⟩, -⟩)
  | fault f => exact iff_of_false (abort_ne_internal f) (by rintro ⟨⟨⟩, -⟩)
  | broken head frames f =>
    rw [receiveField]
    split
    · next wanted =>
      rw [receivePart_eq_internal_iff]
      exact ⟨fun refused => ⟨.broken wanted, refused⟩, And.right⟩
    · next other =>
      have missed : ¬ d.Reaches (.broken head frames f) := by
        intro reached
        cases reached with
        | broken wanted => exact other wanted
      refine iff_of_false ?_ (fun both => missed both.1)
      split
      · exact abort_ne_internal _
      · exact abort_ne_internal f
  | part head frames rest ih =>
    rw [receiveField]
    split
    · next wanted =>
      rw [receivePart_eq_internal_iff]
      exact ⟨fun refused => ⟨.part wanted, refused⟩, And.right⟩
    · next other =>
      split
      · next long =>
        refine iff_of_false (abort_ne_internal _) ?_
        rintro ⟨reached, -⟩
        cases reached with
        | part wanted => exact other wanted
        | behind _ short _ => rw [short] at long; cases long
      · next short =>
        rw [ih]
        refine and_congr_left fun _ => ⟨.behind (Bool.eq_false_iff.mpr other)
          (Bool.eq_false_iff.mpr short), ?_⟩
        intro reached
        cases reached with
        | part wanted => exact absurd wanted other
        | behind _ _ reached => exact reached

/-- The field of a request comes up: it is a form, and the wanted part comes up in it. -/
def ReachedBy (d : UploadDescriptor) (headers : Headers) (body : FormData.Body) : Prop :=
  ∃ boundary, FormData.boundary headers = .ok boundary ∧ d.Reaches (.read boundary body)

theorem ingest_eq_internal_iff [Memory] {headers : Headers} {body : FormData.Body} :
    (d.ingest headers body chunkSize).result = .error (.internal operation) ↔
      d.ReachedBy headers body ∧
        ∃ fault, BoundedBuffer.reserve d.limit = .error fault ∧ operation = d.unreserved fault := by
  rw [ingest, ReachedBy]
  cases FormData.boundary headers with
  | error fault =>
    refine iff_of_false (fun failed => ?_) (by rintro ⟨⟨_, ⟨⟩, -⟩, -⟩)
    cases failed
  | ok boundary =>
    dsimp only
    rw [receiveField_eq_internal_iff]
    refine and_congr_left fun _ => ⟨fun reached => ⟨boundary, rfl, reached⟩, ?_⟩
    rintro ⟨_, ⟨⟩, reached⟩
    exact reached

end UploadDescriptor

/-- A field is offered: it has a name, no larger length is declared than may be, and the field
comes up in the form. -/
structure Upload.Offered (headers : Headers) (body : FormData.Body) (field : String)
    (settings : UploadSettings) : Prop where
  named : field ≠ ""
  within : ∀ n, DeclaredLength.ofHeaders headers = .known n →
    n ≤ settings.limit + settings.framingOverhead
  reached : (UploadDescriptor.ofSettings (.ofHeaders headers) field settings).ReachedBy headers body

/-- An upload fails internally just if its field is offered and its buffer is refused. -/
theorem Upload.receive_eq_internal_iff [Memory] {headers : Headers} {body : FormData.Body}
    {baseDir : FilePath} {field : String} {settings : UploadSettings} {operation : String} :
    (receive headers body baseDir field settings).result = .error (.internal operation) ↔
      Offered headers body field settings ∧
        ∃ fault, BoundedBuffer.reserve settings.limit = .error fault ∧
          operation = (UploadDescriptor.ofSettings (.ofHeaders headers) field settings).unreserved
            fault := by
  let d := UploadDescriptor.ofSettings (.ofHeaders headers) field settings
  by_cases nameless : field = ""
  · rw [receive, if_pos nameless]
    refine iff_of_false (fun failed => ?_) fun both => both.1.named nameless
    cases failed
  by_cases within : ∀ n, d.declared = .known n → n ≤ d.limit + settings.framingOverhead
  · rw [receive_of_checked nameless (UploadDescriptor.precheck_of_within within)]
    constructor
    · intro failed
      cases read : (d.ingest headers body settings.chunkSize).result with
      | ok artifact => rw [read] at failed; cases failed
      | error failure =>
        rw [read] at failed
        cases failed
        obtain ⟨reached, refused⟩ := UploadDescriptor.ingest_eq_internal_iff.mp read
        exact ⟨⟨nameless, within, reached⟩, refused⟩
    · rintro ⟨offered, refused⟩
      have failed : (d.ingest headers body settings.chunkSize).result =
          .error (.internal operation) :=
        UploadDescriptor.ingest_eq_internal_iff.mpr ⟨offered.reached, refused⟩
      rw [failed]
      rfl
  · refine iff_of_false (fun failed => ?_) fun both => within both.1.within
    simp only [not_forall, Nat.not_le] at within
    obtain ⟨n, known, beyond⟩ := within
    obtain ⟨message, refused⟩ := UploadDescriptor.precheck_of_beyond known beyond
    rw [receive_of_refused nameless refused] at failed
    cases failed

/-! ## Configured ceilings -/

/-- A configuration is valid if no limit that must be positive is 0; no ceiling is too large. -/
theorem Config.validate_eq_ok_iff {config : Config} :
    config.validate = .ok () ↔ config.files.maxFileSize ≠ 0 ∧ config.files.memoryLimit ≠ 0 ∧
      config.files.chunkSize ≠ some 0 := by
  unfold validate
  split
  · next zero => simp [zero]
  · next positive =>
    split
    · next zero => simp [zero]
    · next room =>
      split
      · next zero => simp [zero]
      · next steps => simp [positive, room, steps]

/-- A ceiling in MiB is told in full up to the largest size there is. -/
theorem ByteSize.le_ofMib_iff {size mib : Nat} (small : size ≤ max) :
    size ≤ ofMib mib ↔ size ≤ mib * 2 ^ 20 := by
  rw [ofMib, mib_eq, Nat.le_min]
  exact and_iff_left small

/-- The ceiling of a request is at least a size if the configured one is, and the one that the
request asks for, if it asks for one. -/
theorem FileLimits.le_limit_cappedSettings_iff (limits : FileLimits) (limitMib : Option Nat)
    {size : Nat} (small : size ≤ ByteSize.max) :
    size ≤ (limits.cappedSettings limitMib).limit ↔
      size ≤ limits.maxFileSize ∧ ∀ mib, limitMib = some mib → size ≤ mib * 2 ^ 20 := by
  have ceiling : (limits.cappedSettings limitMib).limit =
      min (limits.settings limitMib).limit limits.maxFileSize := rfl
  rw [ceiling, Nat.le_min, and_comm]
  refine and_congr_right fun within => ?_
  cases limitMib with
  | none => exact iff_of_true within nofun
  | some mib =>
    rw [limit_settings_some, ByteSize.le_ofMib_iff small]
    refine ⟨fun asked other same => ?_, fun asked => asked mib rfl⟩
    rw [← Option.some.inj same]
    exact asked

namespace Http

/-- A configuration is valid however large its ceiling is. Where memory does not run out, a request
fails internally just if its field is offered under a ceiling of 2 ^ 63 octets or more: both the
configured ceiling and the one that the request asks for, if it asks for one, are that large. -/
theorem internal_iff_of_memory [Memory] (config : Config) (field : String)
    (limitMib : Option Nat) (request : Request) :
    (config.validate = .ok () ↔ config.files.maxFileSize ≠ 0 ∧ config.files.memoryLimit ≠ 0 ∧
      config.files.chunkSize ≠ some 0) ∧
    (BoundedBuffer.reserve (config.files.cappedSettings limitMib).limit ≠ .error .outOfMemory →
      ((∃ operation, (receive config field limitMib request).result =
          .error (.internal operation)) ↔
        Upload.Offered request.headers request.body field (config.files.cappedSettings limitMib) ∧
          2 ^ 63 ≤ config.files.maxFileSize ∧
          ∀ mib, limitMib = some mib → 2 ^ 63 ≤ mib * 2 ^ 20)) := by
  refine ⟨Config.validate_eq_ok_iff, fun memory => ?_⟩
  rw [← config.files.le_limit_cappedSettings_iff limitMib (by decide)]
  constructor
  · rintro ⟨operation, failed⟩
    obtain ⟨offered, fault, refused, -⟩ := Upload.receive_eq_internal_iff.mp failed
    refine ⟨offered, ?_⟩
    rcases BoundedBuffer.reserve_eq_error_iff.mp refused with ⟨-, huge⟩ | ⟨rfl, -⟩
    · exact huge
    · exact absurd refused memory
  · rintro ⟨offered, huge⟩
    have refused := BoundedBuffer.reserve_eq_error_iff.mpr (.inl ⟨rfl, huge⟩)
    exact ⟨_, Upload.receive_eq_internal_iff.mpr ⟨offered, _, refused, rfl⟩⟩

/-- A server whose ceiling is the least that no buffer can have. -/
def vastConfig : Config where
  files := { maxFileSize := 2 ^ 63 }

/-- A request to inspect a field of two octets. -/
def inspectRequest : Request where
  method := "POST"
  target := Bytes.ofString "/uploads/a/inspect"
  headers := [FormData.announcement "B"]
  body := [.frame (FormData.encode (Bytes.ofString "B") [Upload.twoOctets])]

theorem offered_inspectRequest {settings : UploadSettings} :
    Upload.Offered inspectRequest.headers inspectRequest.body "a" settings := by
  have announced : FormData.boundary inspectRequest.headers = .ok (Bytes.ofString "B") :=
    FormData.boundary_of_announcement Upload.announceable_letter
      (FormData.first?_announcement "B" [])
  have undeclared : DeclaredLength.ofHeaders inspectRequest.headers = .absent := by
    decide +kernel
  have writable : ∀ p ∈ [Upload.twoOctets], p.Writable (Bytes.ofString "B") :=
    fun p member => List.mem_singleton.mp member ▸ Upload.writable_twoOctets
  have carries := FormData.carries_read Upload.announceable_letter.cr_not_mem_delimiter writable
    (.atOnce (Bytes.ofString "B") _)
  refine ⟨by decide, ?_, _, announced, ?_⟩
  · rw [undeclared]
    exact nofun
  · refine UploadDescriptor.reaches_of_carries carries ⟨_, List.mem_singleton.mpr rfl, rfl⟩ ?_
    rintro p ⟨⟩

/-- A request that asks for just 2 ^ 63 octets fails internally where they are configured. -/
theorem internal_iff_of_memory_asked :
    BoundedBuffer.reserve (vastConfig.files.cappedSettings (some (2 ^ 43))).limit ≠
        .error .outOfMemory ∧
      ∃ operation, (receive vastConfig "a" (some (2 ^ 43)) inspectRequest).result =
        .error (.internal operation) := by
  have memory : BoundedBuffer.reserve (vastConfig.files.cappedSettings (some (2 ^ 43))).limit ≠
      .error .outOfMemory := by
    rw [BoundedBuffer.reserve_eq_error_iff.mpr (.inl ⟨rfl, by decide⟩)]
    exact nofun
  refine ⟨memory, ((internal_iff_of_memory vastConfig "a" _ inspectRequest).2 memory).mpr
    ⟨offered_inspectRequest, Nat.le_refl _, ?_⟩⟩
  rintro mib ⟨⟩
  decide

/-- A valid configuration whose ceiling is a number of 64 bits, under which every request for a
field fails internally, and not for want of memory. -/
theorem internal_of_valid :
    vastConfig.validate = .ok () ∧ vastConfig.files.maxFileSize < 2 ^ 64 ∧
      BoundedBuffer.reserve (vastConfig.files.cappedSettings none).limit =
        .error .capacityOverflow ∧
      (∃ operation, (receive vastConfig "a" none inspectRequest).result =
        .error (.internal operation)) ∧
      ∀ fs, (handle vastConfig fs inspectRequest).2.2.status = 500 := by
  have refused : BoundedBuffer.reserve (vastConfig.files.cappedSettings none).limit =
      .error .capacityOverflow :=
    BoundedBuffer.reserve_eq_error_iff.mpr (.inl ⟨rfl, by decide⟩)
  obtain ⟨operation, failed⟩ : ∃ operation,
      (receive vastConfig "a" none inspectRequest).result = .error (.internal operation) :=
    ⟨_, Upload.receive_eq_internal_iff.mpr ⟨offered_inspectRequest, _, refused, rfl⟩⟩
  refine ⟨by decide, by decide, refused, ⟨operation, failed⟩, fun fs => ?_⟩
  have known : Route.ofPath? (path inspectRequest.target) = some (.inspect [0x61]) := by decide
  have named : Utf8.decode? (percentDecode [0x61]) = some "a" := by decide +kernel
  have given : pairs (query inspectRequest.target) = [] := by decide +kernel
  have read : inspectArguments [0x61] inspectRequest = .ok ("a", none) := by
    rw [inspectArguments, fieldName, named, given]
    rfl
  unfold handle
  rw [known]
  dsimp only
  rw [if_pos (by decide), answer, read]
  dsimp only
  rw [if_neg (by decide), inspectUpload, Response.ofTraced, Traced.bind_of_error failed]
  rfl

end Http

end Intake
