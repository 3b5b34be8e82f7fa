import Intake.Proofs.FilePath.Resolution
import Intake.Proofs.Upload.Declaration
import Intake.Proofs.Upload.Saving

/-!
# How uploads fail

The kind of a failure tells which half of the work it comes from: receiving fails for what was sent,
or because no buffer could be had (`Failure.OfReceipt`), and saving fails for where the upload was
to go (`Failure.OfSave`).

* `Upload.ofReceipt_of_receive`: how receiving can fail, whatever arrives.
* `Upload.ofSave_of_saveTo`: how saving can fail, whatever the file system holds.
* `OfReceipt.status_mem`, `OfSave.status_mem`: the statuses that clients are told of either.
-/

namespace Intake

namespace Failure

/-- A failure of receiving an upload. -/
inductive OfReceipt : Failure → Prop
  | unasked (message : String) : OfReceipt (.badRequest message)
  | tooLarge (check : SizeCheck) (message : String) : OfReceipt (.payloadTooLarge check message)
  | unreadable (message : String) : OfReceipt (.multipartParse message)
  | missing (field : String) : OfReceipt (.formFieldMissing field)
  | brokenOff (message : String) : OfReceipt (.streamRead message)
  | unreserved (operation : String) : OfReceipt (.internal operation)

/-- A failure of saving an upload. -/
inductive OfSave : Failure → Prop
  | unusable (message : String) : OfSave (.invalidDestination message)
  | taken (path : FilePath) : OfSave (.destinationExists path)
  | refused (path : FilePath) (fault : IoFault) : OfSave (.io path fault)

variable {failure : Failure}

theorem OfReceipt.status_mem (received : failure.OfReceipt) :
    failure.status ∈ [400, 413, 500] := by
  cases received <;> simp [status]

theorem OfSave.status_mem (saved : failure.OfSave) : failure.status ∈ [400, 409, 500] := by
  cases saved <;> simp [status]

theorem ofReceipt_ofFault (fault : FormData.Fault) : (ofFault fault).OfReceipt := by
  cases fault <;> constructor

end Failure

/-! ## Receiving -/

namespace UploadDescriptor

variable {d : UploadDescriptor} {chunkSize : Nat} {failure : Failure}

theorem ofReceipt_of_abort {fault : FormData.Fault}
    (failed : (d.abort fault : Traced Artifact).result = .error failure) : failure.OfReceipt := by
  rw [← Except.error.inj failed]
  exact Failure.ofReceipt_ofFault fault

theorem ofReceipt_of_receivePart [Memory] {head : FormData.PartHead} {frames : List Bytes}
    {ending : Option FormData.Fault}
    (failed : (d.receivePart chunkSize head frames ending).result = .error failure) :
    failure.OfReceipt := by
  cases reserved : BoundedBuffer.reserve d.limit with
  | error fault =>
    rw [receivePart, reserved] at failed
    rw [← Except.error.inj failed]
    exact .unreserved _
  | ok buffer =>
    rcases Nat.lt_or_ge d.limit frames.flatten.length with long | fits
    · obtain ⟨received, -, -, refused⟩ := receivePart_of_overflow reserved long
      rw [← Except.error.inj (refused.symm.trans failed)]
      exact .tooLarge _ _
    · rw [receivePart_of_fits reserved fits] at failed
      cases ending with
      | none => cases failed
      | some fault =>
        rw [← Except.error.inj failed]
        exact Failure.ofReceipt_ofFault fault

/-- A form that is not received is given up for a fault in it, or for its wanted part. -/
theorem ofReceipt_of_receiveField [Memory] {form : FormData.Form}
    (failed : (d.receiveField chunkSize form).result = .error failure) : failure.OfReceipt := by
  induction form with
  | closed =>
    rw [← Except.error.inj failed]
    exact .missing _
  | fault fault => exact ofReceipt_of_abort failed
  | part head frames rest ih =>
    rw [receiveField] at failed
    split at failed
    · exact ofReceipt_of_receivePart failed
    · split at failed
      · exact ofReceipt_of_abort failed
      · exact ih failed
  | broken head frames fault =>
    rw [receiveField] at failed
    split at failed
    · exact ofReceipt_of_receivePart failed
    · split at failed
      · exact ofReceipt_of_abort failed
      · exact ofReceipt_of_abort failed

theorem ofReceipt_of_ingest [Memory] {headers : Headers} {body : FormData.Body}
    (failed : (d.ingest headers body chunkSize).result = .error failure) : failure.OfReceipt := by
  rw [ingest] at failed
  split at failed
  · rw [← Except.error.inj failed]
    exact .unreadable _
  · exact ofReceipt_of_receiveField failed

theorem ofReceipt_of_precheck {framingOverhead : Nat}
    (failed : (d.precheck framingOverhead).result = .error failure) : failure.OfReceipt := by
  by_cases within : ∀ n, d.declared = .known n → n ≤ d.limit + framingOverhead
  · exact absurd (failed.symm.trans (precheck_of_within within)) nofun
  · simp only [not_forall, Nat.not_le] at within
    obtain ⟨n, known, beyond⟩ := within
    obtain ⟨message, refused⟩ := precheck_of_beyond known beyond
    rw [← Except.error.inj (refused.symm.trans failed)]
    exact .tooLarge _ _

end UploadDescriptor

namespace Upload

/-- An upload that is not received fails in one of these ways, whatever is sent. -/
theorem ofReceipt_of_receive [Memory] {headers : Headers} {body : FormData.Body}
    {baseDir : FilePath} {field : String} {settings : UploadSettings} {failure : Failure}
    (failed : (receive headers body baseDir field settings).result = .error failure) :
    failure.OfReceipt := by
  by_cases nameless : field = ""
  · rw [receive, if_pos nameless] at failed
    rw [← Except.error.inj failed]
    exact .unasked _
  cases checked : ((UploadDescriptor.ofSettings (.ofHeaders headers) field settings).precheck
      settings.framingOverhead).result with
  | error refusal =>
    rw [receive_of_refused nameless checked] at failed
    rw [← Except.error.inj failed]
    exact UploadDescriptor.ofReceipt_of_precheck checked
  | ok passed =>
    rw [receive_of_checked nameless checked] at failed
    cases read : ((UploadDescriptor.ofSettings (.ofHeaders headers) field settings).ingest headers
        body settings.chunkSize).result with
    | ok artifact =>
      rw [read] at failed
      cases failed
    | error fault =>
      rw [read] at failed
      rw [← Except.error.inj failed]
      exact UploadDescriptor.ofReceipt_of_ingest read

end Upload

/-! ## Saving -/

theorem ofSave_refusal (path : FilePath) (fault : IoFault) : (refusal path fault).OfSave := by
  cases fault <;> constructor

theorem ofSave_of_persist {fs : FileSystem} {artifact : Artifact} {path : FilePath}
    {broken : Option BrokenWrite} {failure : Failure}
    (failed : (persist fs artifact path broken).2.result = .error failure) : failure.OfSave := by
  by_cases there : fs.tryExists path = .ok true
  · rw [← Except.error.inj ((persist_of_there there).2.symm.trans failed)]
    exact .taken path
  · cases create : fs.createNew path with
    | error fault =>
      rw [← Except.error.inj ((persist_of_refused there create).2.symm.trans failed)]
      exact ofSave_refusal path fault
    | ok made =>
      cases broken with
      | none => exact absurd (failed.symm.trans (persist_of_created create).2) nofun
      | some write =>
        rw [← Except.error.inj ((persist_of_broken create write).2.symm.trans failed)]
        exact .refused path write.fault

/-- An upload that is not saved fails in one of these ways, whatever the file system holds. -/
theorem Upload.ofSave_of_saveTo {u : Upload} {fs : FileSystem} {destination : Destination}
    {broken : Option BrokenWrite} {failure : Failure}
    (failed : (u.saveTo fs destination broken).2.result = .error failure) : failure.OfSave := by
  cases located : u.locate destination with
  | error unresolved =>
    rw [saveTo, located] at failed
    obtain ⟨message, rfl⟩ := Destination.resolve_eq_error located
    rw [← Except.error.inj failed]
    exact .unusable message
  | ok path =>
    rw [(saveTo_of_located fs located broken).2] at failed
    cases ended : (persist fs u.artifact path broken).2.result with
    | ok done =>
      rw [ended] at failed
      cases failed
    | error fault =>
      rw [ended] at failed
      rw [← Except.error.inj failed]
      exact ofSave_of_persist ended

end Intake
