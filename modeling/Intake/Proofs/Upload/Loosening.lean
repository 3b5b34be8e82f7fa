import Intake.Proofs.Upload.Declaration

/-!
# Looser limits

An upload that is received is received just the same under limits that are no stricter, as long as
the new ceiling can be reserved. The size of the steps in which it is copied plays no part in that,
and where the upload fails it decides at most how much is told to have arrived.

* `precheck_of_looser`, `receiveField_of_looser`: the early check, and the reading of a form.
* `receiveField_chunkSize`: a form that is copied in other steps comes to the same end.
* `receive_of_looser`: both for uploads.
-/

namespace Intake

/-! ## Results that agree but for what is told -/

/-- Two results of receiving: one and the same, or both a refusal of data that passed the limit,
whatever is told of how much had arrived. -/
inductive Failure.SameEnd {α : Type} : Except Failure α → Except Failure α → Prop
  | same (result : Except Failure α) : SameEnd result result
  | tooLarge (told toldToo : String) :
    SameEnd (.error (.payloadTooLarge .streaming told))
      (.error (.payloadTooLarge .streaming toldToo))

theorem Failure.SameEnd.map {α β : Type} {first second : Except Failure α} (f : α → β)
    (ends : SameEnd first second) : SameEnd (first.map f) (second.map f) := by
  cases ends with
  | same result => exact .same _
  | tooLarge told toldToo => exact .tooLarge told toldToo

namespace UploadDescriptor

/-- The same upload under limits that are no stricter, the ceiling of which can be reserved. -/
structure LoosenedTo [Memory] (d e : UploadDescriptor) : Prop where
  declared : e.declared = d.declared
  field : e.field = d.field
  limit : d.limit ≤ e.limit
  memoryCap : d.memoryCap ≤ e.memoryCap
  reserved : ∃ buffer, BoundedBuffer.reserve e.limit = .ok buffer

variable {d e : UploadDescriptor} {chunkSize other : Nat}

/-! ## The early check -/

/-- The early check passes under looser limits what it passes under stricter ones. -/
theorem precheck_of_looser [Memory] {framingOverhead allowance : Nat} (looser : d.LoosenedTo e)
    (overhead : framingOverhead ≤ allowance)
    (passed : (d.precheck framingOverhead).result = .ok ()) :
    (e.precheck allowance).result = .ok () := by
  rw [precheck_eq_ok_iff] at passed ⊢
  intro n known
  rw [looser.declared] at known
  exact (passed n known).trans (Nat.add_le_add looser.limit overhead)

/-! ## The form -/

namespace LoosenedTo

theorem wants_eq [Memory] (looser : d.LoosenedTo e) (head : FormData.PartHead) :
    e.wants head = d.wants head := by
  rw [wants, wants, looser.field]

theorem exceedsCap_eq_false [Memory] (looser : d.LoosenedTo e) {frames : List Bytes}
    (within : d.exceedsCap frames = false) : e.exceedsCap frames = false := by
  have cap := looser.memoryCap
  simp only [exceedsCap, decide_eq_false_iff_not] at within ⊢
  omega

end LoosenedTo

/-- The wanted part is accepted under looser limits if it is under stricter ones. -/
theorem receivePart_of_looser [Memory] {head : FormData.PartHead} {frames : List Bytes}
    {ending : Option FormData.Fault} {artifact : Artifact} (looser : d.LoosenedTo e)
    (accepted : (d.receivePart chunkSize head frames ending).result = .ok artifact) :
    (e.receivePart other head frames ending).result = .ok artifact := by
  obtain ⟨-, fits, ended, whole⟩ := receivePart_eq_ok_iff.mp accepted
  exact receivePart_eq_ok_iff.mpr
    ⟨looser.reserved, Nat.le_trans fits looser.limit, ended, whole⟩

/-- What is received of a form is received of it under looser limits. -/
theorem receiveField_of_looser [Memory] {form : FormData.Form} {artifact : Artifact}
    (looser : d.LoosenedTo e)
    (accepted : (d.receiveField chunkSize form).result = .ok artifact) :
    (e.receiveField other form).result = .ok artifact := by
  induction form with
  | closed => cases accepted
  | fault f => cases accepted
  | broken head frames f => exact absurd accepted (receiveField_broken_ne_ok head frames f)
  | part head frames rest ih =>
    rw [receiveField] at accepted ⊢
    rw [looser.wants_eq]
    split at accepted
    · next wanted =>
      rw [if_pos wanted]
      exact receivePart_of_looser looser accepted
    · next ignored =>
      rw [if_neg ignored]
      split at accepted
      · exact absurd accepted (abort_ne_ok _)
      · next within =>
        have fits := looser.exceedsCap_eq_false (Bool.eq_false_iff.mpr within)
        rw [fits, if_neg Bool.false_ne_true]
        exact ih accepted

/-- What is received of a body is received of it under looser limits. -/
theorem ingest_of_looser [Memory] {headers : Headers} {body : FormData.Body} {artifact : Artifact}
    (looser : d.LoosenedTo e)
    (accepted : (d.ingest headers body chunkSize).result = .ok artifact) :
    (e.ingest headers body other).result = .ok artifact := by
  rw [ingest] at accepted ⊢
  cases announced : FormData.boundary headers with
  | error fault => rw [announced] at accepted; cases accepted
  | ok boundary =>
    rw [announced] at accepted
    exact receiveField_of_looser looser accepted

/-! ## Other steps -/

/-- The wanted part comes to the same end when it is copied in other steps. -/
theorem receivePart_chunkSize [Memory] (d : UploadDescriptor) (chunkSize other : Nat)
    (head : FormData.PartHead) (frames : List Bytes) (ending : Option FormData.Fault) :
    Failure.SameEnd (d.receivePart chunkSize head frames ending).result
      (d.receivePart other head frames ending).result := by
  cases reserved : BoundedBuffer.reserve d.limit with
  | error fault =>
    rw [receivePart, receivePart, reserved]
    exact .same _
  | ok buffer =>
    rcases Nat.lt_or_ge d.limit frames.flatten.length with long | fits
    · have refused (size : Nat) : ∃ told, (d.receivePart size head frames ending).result =
          .error (.payloadTooLarge .streaming told) := by
        obtain ⟨received, -, -, beyond⟩ := receivePart_of_overflow reserved long
        exact ⟨_, beyond⟩
      obtain ⟨told, first⟩ := refused chunkSize
      obtain ⟨toldToo, second⟩ := refused other
      rw [first, second]
      exact .tooLarge told toldToo
    · rw [receivePart_of_fits reserved fits, receivePart_of_fits reserved fits]
      exact .same _

/-- A form comes to the same end when its wanted part is copied in other steps. -/
theorem receiveField_chunkSize [Memory] (d : UploadDescriptor) (chunkSize other : Nat)
    (form : FormData.Form) :
    Failure.SameEnd (d.receiveField chunkSize form).result (d.receiveField other form).result := by
  induction form with
  | closed => exact .same _
  | fault f => exact .same _
  | broken head frames f =>
    rw [receiveField, receiveField]
    split
    · exact d.receivePart_chunkSize chunkSize other head frames (some f)
    · exact .same _
  | part head frames rest ih =>
    rw [receiveField, receiveField]
    split
    · exact d.receivePart_chunkSize chunkSize other head frames none
    · split
      · exact .same _
      · exact ih

theorem ingest_chunkSize [Memory] (d : UploadDescriptor) (headers : Headers) (body : FormData.Body)
    (chunkSize other : Nat) :
    Failure.SameEnd (d.ingest headers body chunkSize).result
      (d.ingest headers body other).result := by
  rw [ingest, ingest]
  cases FormData.boundary headers with
  | error fault => exact .same _
  | ok boundary => exact d.receiveField_chunkSize chunkSize other _

end UploadDescriptor

/-! ## Uploads -/

namespace Upload

/-- An upload comes to the same end when it is copied in other steps. -/
theorem receive_chunkSize [Memory] (headers : Headers) (body : FormData.Body) (baseDir : FilePath)
    (field : String) (settings : UploadSettings) (chunkSize : Nat) :
    Failure.SameEnd (receive headers body baseDir field settings).result
      (receive headers body baseDir field { settings with chunkSize }).result := by
  let d := UploadDescriptor.ofSettings (.ofHeaders headers) field settings
  by_cases nameless : field = ""
  · rw [receive, if_pos nameless, receive, if_pos nameless]
    exact .same _
  · cases checked : (d.precheck settings.framingOverhead).result with
    | error failure =>
      have alike : (receive headers body baseDir field { settings with chunkSize }).result =
          .error failure := receive_of_refused nameless checked
      rw [receive_of_refused nameless checked, alike]
      exact .same _
    | ok passed =>
      have other : (receive headers body baseDir field { settings with chunkSize }).result =
          (d.ingest headers body chunkSize).result.map fun artifact => { artifact, baseDir } :=
        receive_of_checked nameless checked
      rw [receive_of_checked nameless checked, other]
      exact (d.ingest_chunkSize headers body settings.chunkSize chunkSize).map _

/-- An upload that is received is received as the same artifact under limits that are no stricter,
whatever the sizes of the steps are, if their ceiling can be reserved. Another size of the steps
alone leaves the artifact, and the kind of a failure, as it was. -/
theorem receive_of_looser [Memory] (headers : Headers) (body : FormData.Body) (baseDir : FilePath)
    (field : String) (strict loose : UploadSettings) :
    (strict.limit ≤ loose.limit → strict.memoryCap ≤ loose.memoryCap →
      strict.framingOverhead ≤ loose.framingOverhead →
      (∃ buffer, BoundedBuffer.reserve loose.limit = .ok buffer) →
      ∀ upload, (receive headers body baseDir field strict).result = .ok upload →
        (receive headers body baseDir field loose).result = .ok upload) ∧
    ∀ chunkSize, Failure.SameEnd (receive headers body baseDir field strict).result
      (receive headers body baseDir field { strict with chunkSize }).result := by
  refine ⟨?_, receive_chunkSize headers body baseDir field strict⟩
  intro limit cap overhead reserved upload received
  obtain ⟨named, checked, read, base⟩ := receive_eq_ok_iff.mp received
  have looser : (UploadDescriptor.ofSettings (.ofHeaders headers) field strict).LoosenedTo
      (.ofSettings (.ofHeaders headers) field loose) := ⟨rfl, rfl, limit, cap, reserved⟩
  exact receive_eq_ok_iff.mpr ⟨named,
    UploadDescriptor.precheck_of_looser looser overhead checked,
    UploadDescriptor.ingest_of_looser looser read, base⟩

/-- A field that fills its limit, under a declared length that fills the limit and the allowance
together, is received under wider limits as well. -/
theorem receive_of_looser_brimful :
    (receive [FormData.announcement "B", ("content-length", Bytes.ofString "22")]
      [.frame (FormData.encode (Bytes.ofString "B") [twoOctets])] ⟨[Bytes.dot]⟩ "a"
      ⟨3, 2, 4096, 20⟩).result = .ok ⟨twoOctets.received, ⟨[Bytes.dot]⟩⟩ := by
  have declared : Headers.first?
      [FormData.announcement "B", ("content-length", Bytes.ofString "22")] "content-length" =
      some (Bytes.ofString (toString 22)) := by decide +kernel
  have within : ¬ Headers.Overdeclares
      [FormData.announcement "B", ("content-length", Bytes.ofString "22")] ⟨2, 2, 1, 20⟩ := by
    rw [overdeclares_iff_of_decimal declared]
    decide
  have received := receive_twoOctets [("content-length", Bytes.ofString "22")] ⟨[Bytes.dot]⟩ 20
    within
  exact (receive_of_looser _ _ _ _ ⟨2, 2, 1, 20⟩ ⟨3, 2, 4096, 20⟩).1 (by decide) (by decide)
    (by decide) ⟨_, rfl⟩ _ received

end Upload

end Intake
