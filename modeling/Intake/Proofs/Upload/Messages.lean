import Intake.Proofs.ByteSize.Reading
import Intake.Proofs.Upload.Endings
import Intake.Proofs.Upload.Failures

/-!
# What is told of uploads

Those who hold uploads without looking at failures have nothing but messages to tell them apart.
So every failure of receiving has a message (`Failure.Worded`), one for the size of an upload says
so, and the sizes that it shows are in the order of those that were compared.

* `ByteSize.describe_faithful`: what shown sizes stand for, by themselves and in messages.
* `Upload.worded_of_receive`: how failures of receiving are worded.
* `Upload.paired_unambiguous`: an upload comes without a message, and a message without an upload.
-/

namespace Intake

open FormData (Body Fault)

/-! ## Sizes in messages -/

namespace ByteSize

variable {a b : Nat}

/-- What is shown of a size tells it up to rounding, and tells it exactly if there are no
decimals. -/
structure Faithful (bytes : Nat) (shown : Shown) : Prop where
  read : read? (describe bytes) = some shown
  unit : shown.unit = unitOf bytes
  near : |shown.amount - bytes| ≤ shown.unit / 200 + 1024
  nearer : bytes < 2 ^ 53 → |shown.amount - bytes| ≤ shown.unit / 200
  whole : '.' ∉ (describe bytes).toList ↔ bytes < kib ∨ shown.unit ∣ bytes
  same : '.' ∉ (describe bytes).toList → shown.amount = bytes

theorem exists_faithful (small : b < Word.limit) : ∃ shown, Faithful b shown := by
  have few : b < exactLimit := Nat.lt_trans small (by decide)
  obtain ⟨shown, read, unit, amount⟩ := exists_read?_describe few
  obtain ⟨name, named, text⟩ := describe_eq_inUnit b
  obtain ⟨near, nearer⟩ := hundredfold_error small
  have whole : '.' ∉ (describe b).toList ↔ unitOf b ∣ b := by
    rw [text, point_mem_inUnit_iff named, not_not]
  have octets : b < kib → unitOf b ∣ b := by
    intro less
    rcases unitOf_cases b with ⟨-, more⟩ | ⟨-, more, -⟩ | ⟨-, more, -⟩ | ⟨one, -⟩
    · exact absurd (Nat.lt_of_lt_of_le less (by decide)) (Nat.not_lt.mpr more)
    · exact absurd (Nat.lt_of_lt_of_le less (by decide)) (Nat.not_lt.mpr more)
    · exact absurd less (Nat.not_lt.mpr more)
    · exact one ▸ Nat.one_dvd b
  refine ⟨shown, read, unit, ?_, ?_, ?_, ?_⟩
  · rw [amount, unit]
    exact near
  · rw [amount, unit]
    exact nearer
  · rw [whole, unit, or_iff_right_of_imp octets]
  · rw [whole, amount]
    intro divides
    rw [hundredfold_of_dvd divides few]
    push_cast
    ring

/-- Two sizes can be read where they are shown, and the second is shown as no less. -/
def ShownInOrder (a b : Nat) : Prop :=
  ∃ less more, read? (describe a) = some less ∧ read? (describe b) = some more ∧
    less.amount ≤ more.amount

theorem shownInOrder_of_le (le : a ≤ b) (small : b < exactLimit) : ShownInOrder a b := by
  obtain ⟨less, first, -, few⟩ := exists_read?_describe (Nat.lt_of_le_of_lt le small)
  obtain ⟨more, second, -, many⟩ := exists_read?_describe small
  refine ⟨less, more, first, second, ?_⟩
  rw [few, many]
  have order : (hundredfold a : ℚ) ≤ hundredfold b := by exact_mod_cast hundredfold_mono le
  linarith

end ByteSize

namespace UploadDescriptor

variable {d : UploadDescriptor} {check : SizeCheck} {message : String}

theorem limit_lt_of_reservable [Memory] (reservable : d.Reservable) :
    d.limit < Word.signedLimit := by
  obtain ⟨buffer, reserved⟩ := reservable
  unfold BoundedBuffer.reserve at reserved
  split at reserved
  · cases reserved
  · next possible => exact Nat.lt_of_not_le possible

/-- The early check shows the length that it compared, and the limit. -/
theorem shownInOrder_of_precheck {framingOverhead : Nat}
    (told : ∀ n, d.declared = .known n → n < Word.limit)
    (refused : (d.precheck framingOverhead).result = .error (.payloadTooLarge check message)) :
    ∃ payload, message = d.overDeclaredMessage payload ∧ ByteSize.ShownInOrder d.limit payload := by
  obtain ⟨n, known, beyond, failed⟩ | ⟨-, passed, -⟩ := d.precheck_cases framingOverhead
  · rw [failed] at refused
    cases refused
    have small := told n known
    refine ⟨n - framingOverhead, rfl, ByteSize.shownInOrder_of_le (by omega) ?_⟩
    exact Nat.lt_trans (Nat.lt_of_le_of_lt (Nat.sub_le ..) small) (by decide)
  · rw [passed] at refused
    cases refused

/-- Reading a form shows the length that has arrived, and the limit, unless it is another part that
is too long. -/
theorem shownInOrder_of_ingest [Memory] {headers : Headers} {body : Body} {chunkSize : Nat}
    (step : chunkSize < Word.limit)
    (refused : (d.ingest headers body chunkSize).result =
      .error (.payloadTooLarge check message)) :
    (d.ObstructedBy headers body ∧
      ∃ name, message = (Fault.fieldTooLarge name d.memoryCap).message) ∨
    (d.OverflownBy headers body ∧ ∃ received, message = d.overLimitMessage received ∧
      ByteSize.ShownInOrder d.limit received) := by
  have ends := d.ends_ingest headers body chunkSize
  cases ends with
  | skipped long name failed =>
    rw [failed] at refused
    cases refused
    exact .inl ⟨long, name, rfl⟩
  | copied _ long received above near failed =>
    rw [failed] at refused
    cases refused
    have ⟨_, _, _, reservable, _⟩ := long
    have bounded := limit_lt_of_reservable reservable
    have spare : Word.signedLimit + Word.limit < ByteSize.exactLimit := by decide
    have one : 1 < Word.limit := by decide
    refine .inr ⟨long, received, rfl, ByteSize.shownInOrder_of_le (Nat.le_of_lt above) ?_⟩
    omega
  | unreadable _ _ failed | unreserved _ _ failed | missing _ failed =>
    rw [failed] at refused
    cases refused
  | broken _ fault other failed =>
    rw [failed] at refused
    cases fault with
    | fieldTooLarge => cases other
    | _ => cases refused
  | received _ _ accepted =>
    rw [accepted] at refused
    cases refused

end UploadDescriptor

namespace ByteSize

/-- Shown sizes are faithful. Each can be read as a number of units, which is the size up to half a
hundredth of the unit, and up to 1024 octets more above 2 ^ 53; there are no decimals just if the
size is shown exactly, in octets or in whole units. Sizes are shown in their order. So where an
upload is refused because more was declared than may be, or because more arrived, no less is shown
than the limit. A part that is too long in front of the wanted one is told with its limit only. -/
theorem describe_faithful [Memory] :
    (∀ bytes < Word.limit, ∃ shown, Faithful bytes shown) ∧
    (∀ bytes < Word.limit, ∀ fewer ≤ bytes, ShownInOrder fewer bytes) ∧
    (∀ (d : UploadDescriptor) (framingOverhead : Nat) (check : SizeCheck) (message : String),
      (∀ n, d.declared = .known n → n < Word.limit) →
      (d.precheck framingOverhead).result = .error (.payloadTooLarge check message) →
      ∃ payload, message = d.overDeclaredMessage payload ∧ ShownInOrder d.limit payload) ∧
    ∀ (d : UploadDescriptor) (headers : Headers) (body : Body) (chunkSize : Nat)
      (check : SizeCheck) (message : String), chunkSize < Word.limit →
      (d.ingest headers body chunkSize).result = .error (.payloadTooLarge check message) →
      (d.ObstructedBy headers body ∧
        ∃ name, message = (Fault.fieldTooLarge name d.memoryCap).message) ∨
      (d.OverflownBy headers body ∧
        ∃ received, message = d.overLimitMessage received ∧ ShownInOrder d.limit received) := by
  refine ⟨fun bytes small => exists_faithful small, fun bytes small fewer le => ?_, ?_, ?_⟩
  · exact shownInOrder_of_le le (Nat.lt_trans small (by decide))
  · intro d framingOverhead check message told refused
    exact UploadDescriptor.shownInOrder_of_precheck told refused
  · intro d headers body chunkSize check message step refused
    exact UploadDescriptor.shownInOrder_of_ingest step refused

/-- One octet less than a MiB is shown as 1024.00 KiB, and a MiB as no less, also where a MiB is
declared under a limit of one octet less. Two octets that arrive under a limit of one are shown as
no less than that limit. -/
theorem describe_faithful_below_mib :
    describe 1048575 = "1024.00 KiB" ∧ (∃ shown, Faithful 1048575 shown) ∧
    ShownInOrder 1048575 1048576 ∧
    (∃ payload, "Uploaded file was too large: 1 MiB according to Content-Length " ++
        "(current limit is 1024.00 KiB)" =
          (⟨.known 1048596, "a", 1048575, 1⟩ : UploadDescriptor).overDeclaredMessage payload ∧
      ShownInOrder 1048575 payload) ∧
    ∃ message, ((⟨.absent, "a", 1, 1⟩ : UploadDescriptor).ingest [FormData.announcement "B"]
      [.frame (FormData.encode (Bytes.ofString "B") [Upload.twoOctets])] 1).result =
        .error (.payloadTooLarge .streaming message) ∧
      ∃ received, message =
        (⟨.absent, "a", 1, 1⟩ : UploadDescriptor).overLimitMessage received ∧
        ShownInOrder 1 received := by
  obtain ⟨sizes, order, declared, copied⟩ := describe_faithful
  refine ⟨by decide, sizes 1048575 (by decide), order 1048576 (by decide) 1048575 (by decide), ?_,
    ?_⟩
  · refine declared ⟨.known 1048596, "a", 1048575, 1⟩ 20 .precheck _ ?_ (by decide +kernel)
    rintro n ⟨⟩
    decide
  · have writable : ∀ p ∈ [Upload.twoOctets], p.Writable (Bytes.ofString "B") :=
      fun p member => List.mem_singleton.mp member ▸ Upload.writable_twoOctets
    have announced := FormData.boundary_of_announcement Upload.announceable_letter
      (FormData.first?_announcement "B" [])
    have carries := FormData.carries_read Upload.announceable_letter.cr_not_mem_delimiter writable
      (.atOnce (Bytes.ofString "B") _)
    obtain ⟨received, -, -, refused⟩ := UploadDescriptor.receives_of_carries
      (d := ⟨.absent, "a", 1, 1⟩) 1 rfl carries
    rw [← UploadDescriptor.ingest_of_boundary announced] at refused
    refine ⟨_, refused, ?_⟩
    obtain ⟨obstructed, -⟩ | ⟨-, shown⟩ := copied _ _ _ 1 _ _ (by decide) refused
    · obtain ⟨p, ⟨⟩, -⟩ :=
        (UploadDescriptor.obstructedBy_iff_of_carries announced carries).mp obstructed
    · exact shown

end ByteSize

/-! ## Wording -/

/-- A text has a word in it. -/
def Mentions (text word : String) : Prop :=
  ∃ before after, text = before ++ word ++ after

theorem Mentions.append {text word : String} (mentions : Mentions text word) (more : String) :
    Mentions (text ++ more) word := by
  obtain ⟨before, after, rfl⟩ := mentions
  exact ⟨before, after ++ more, String.append_assoc ..⟩

theorem Mentions.prepend {text word : String} (mentions : Mentions text word) (more : String) :
    Mentions (more ++ text) word := by
  obtain ⟨before, after, rfl⟩ := mentions
  exact ⟨more ++ before, after, by simp only [String.append_assoc]⟩

theorem Mentions.ne_empty {text word : String} (mentions : Mentions text word)
    (nonempty : word ≠ "") : text ≠ "" := by
  obtain ⟨before, after, rfl⟩ := mentions
  rw [Ne, String.append_eq_empty_iff, String.append_eq_empty_iff]
  exact fun empty => nonempty empty.1.2

/-- A failure has a message, and says so if an upload was too large. -/
structure Failure.Worded (failure : Failure) : Prop where
  nonempty : failure.message ≠ ""
  tooLarge : failure.isTooLarge = true → Mentions failure.message "too large"

namespace Failure

theorem worded_of_tooLarge {check : SizeCheck} {message : String}
    (mentions : Mentions message "too large") : (payloadTooLarge check message).Worded :=
  ⟨mentions.ne_empty (by decide), fun _ => mentions⟩

/-- Words in front of what a failure tells are a message. -/
theorem worded_of_prefix {failure : Failure} {front : String} (words : front ≠ "")
    (other : failure.isTooLarge = false) (rest : String) (same : failure.message = front ++ rest) :
    failure.Worded := by
  refine ⟨?_, fun large => ?_⟩
  · rw [same, Ne, String.append_eq_empty_iff]
    exact fun empty => words empty.1
  · rw [other] at large
    cases large

theorem worded_unreadable (message : String) : (multipartParse message).Worded :=
  worded_of_prefix (by decide) rfl message rfl

theorem worded_brokenOff (message : String) : (streamRead message).Worded :=
  worded_of_prefix (by decide) rfl message rfl

theorem worded_unreserved (operation : String) : (internal operation).Worded :=
  worded_of_prefix (by decide) rfl operation rfl

theorem worded_missing (field : String) : (formFieldMissing field).Worded :=
  worded_of_prefix (by decide) rfl (field ++ "'") (String.append_assoc ..)

theorem mentions_fieldTooLarge (name : Option String) (cap : Nat) :
    Mentions (Fault.fieldTooLarge name cap).message "too large" := by
  have words : Mentions "' was too large (limit is " "too large" :=
    ⟨"' was ", " (limit is ", by decide⟩
  exact ((words.prepend _).append _).append _

theorem worded_ofFault (fault : Fault) : (ofFault fault).Worded := by
  cases fault with
  | fieldTooLarge name cap => exact worded_of_tooLarge (mentions_fieldTooLarge name cap)
  | streamFailed | incompleteStream | incompleteField => exact worded_brokenOff _
  | _ => exact worded_unreadable _

end Failure

namespace UploadDescriptor

variable {d : UploadDescriptor} {failure : Failure}

theorem mentions_overDeclaredMessage (d : UploadDescriptor) (payload : Nat) :
    Mentions (d.overDeclaredMessage payload) "too large" := by
  have words : Mentions "Uploaded file was too large: " "too large" :=
    ⟨"Uploaded file was ", ": ", by decide⟩
  exact (((words.append _).append _).append _).append _

theorem mentions_overLimitMessage (d : UploadDescriptor) (received : Nat) :
    Mentions (d.overLimitMessage received) "too large" := by
  have words : Mentions "Uploaded file was too large: more than " "too large" :=
    ⟨"Uploaded file was ", ": more than ", by decide⟩
  exact (((words.append _).append _).append _).append _

/-- However reading a form fails, there is a message. -/
theorem Ends.worded {obstructed overflows : Prop} {chunkSize : Nat} {t : Traced Artifact}
    (ends : d.Ends obstructed overflows chunkSize t) (failed : t.result = .error failure) :
    failure.Worded := by
  cases ends with
  | unreadable _ fault ended =>
    rw [← Except.error.inj (ended.symm.trans failed)]
    exact Failure.worded_unreadable _
  | skipped _ name ended =>
    rw [← Except.error.inj (ended.symm.trans failed)]
    exact Failure.worded_ofFault _
  | unreserved _ operation ended =>
    rw [← Except.error.inj (ended.symm.trans failed)]
    exact Failure.worded_unreserved _
  | copied _ _ received _ _ ended =>
    rw [← Except.error.inj (ended.symm.trans failed)]
    exact Failure.worded_of_tooLarge (d.mentions_overLimitMessage received)
  | broken _ fault _ ended =>
    rw [← Except.error.inj (ended.symm.trans failed)]
    exact Failure.worded_ofFault fault
  | missing _ ended =>
    rw [← Except.error.inj (ended.symm.trans failed)]
    exact Failure.worded_missing _
  | received _ _ accepted => exact absurd (accepted.symm.trans failed) nofun

end UploadDescriptor

/-! ## Pairs -/

namespace Upload

variable {headers : Headers} {body : Body} {baseDir : FilePath} {field : String}
  {settings : UploadSettings} {failure : Failure}

/-- An upload that is not received fails with a message. -/
theorem worded_of_receive [Memory]
    (failed : (receive headers body baseDir field settings).result = .error failure) :
    failure.Worded := by
  cases goes_receive headers body baseDir field settings with
  | unasked nameless same =>
    rw [same] at failed
    rw [← Except.error.inj failed]
    exact ⟨by decide, fun large => absurd large Bool.false_ne_true⟩
  | overdeclared _ _ n same =>
    rw [same] at failed
    rw [← Except.error.inj failed]
    exact Failure.worded_of_tooLarge (UploadDescriptor.mentions_overDeclaredMessage _ _)
  | failed _ _ _ _ read ends fault ended same =>
    rw [same] at failed
    rw [← Except.error.inj failed]
    exact ends.worded ended
  | received _ _ _ _ _ _ artifact _ same =>
    rw [same] at failed
    cases failed

/-- What holders of uploads are given is unambiguous. There is no upload just if there is a message,
and there is an upload just if it was received. A failure is one of receiving, and its message is
the one that is given; it tells that the upload is too large just if the upload was refused for its
size, and then the message says so. -/
theorem paired_unambiguous [Memory] (headers : Headers) (body : Body) (baseDir : FilePath)
    (field : String) (limitMib : Option Nat) (limits : FileLimits) :
    let settings := limits.settings limitMib
    let received := (receive headers body baseDir field settings).result
    let answer := paired (receiveWith headers body baseDir field limitMib limits).result
    (answer.1 = none ↔ answer.2 ≠ "") ∧
    (∀ upload, answer = (some upload, "") ↔ received = .ok upload) ∧
    (∀ failure, received = .error failure →
      answer = (none, failure.message) ∧ failure.OfReceipt ∧
      (failure.isTooLarge = true ↔ field ≠ "" ∧ TooLarge headers body field settings)) ∧
    (field ≠ "" → TooLarge headers body field settings →
      answer.1 = none ∧ Mentions answer.2 "too large") := by
  intro settings received answer
  have tooLarge := receive_isTooLarge_iff headers body baseDir field settings
  cases ended : received with
  | ok upload =>
    have given : answer = (some upload, "") := congrArg paired ended
    rw [given]
    refine ⟨iff_of_false nofun fun none_ => none_ rfl, fun other => ?_, nofun,
      fun named large => ?_⟩
    · simp only [Prod.mk.injEq, Option.some.injEq, and_true, Except.ok.injEq]
    · obtain ⟨failure, failed, -⟩ := tooLarge.mpr ⟨named, large⟩
      exact absurd (ended.symm.trans failed) nofun
  | error failure =>
    have given : answer = (none, failure.message) := congrArg paired ended
    have worded := worded_of_receive ended
    have large : failure.isTooLarge = true ↔ field ≠ "" ∧ TooLarge headers body field settings := by
      rw [← tooLarge, show (receive headers body baseDir field settings).result = _ from ended]
      simp only [Except.error.injEq, exists_eq_left']
    rw [given]
    refine ⟨iff_of_true rfl worded.nonempty, fun upload => iff_of_false nofun nofun, ?_, ?_⟩
    · rintro _ ⟨⟩
      exact ⟨rfl, ofReceipt_of_receive ended, large⟩
    · exact fun named refused => ⟨rfl, worded.tooLarge (large.mpr ⟨named, refused⟩)⟩

/-- Of a form that declares 60 octets under a limit of none nothing is given but a message. -/
theorem paired_unambiguous_overdeclared :
    let headers : Headers :=
      [FormData.announcement "B", ("content-length", Bytes.ofString "60")]
    let answer := paired (receiveWith headers [] ⟨[Bytes.dot]⟩ "a" (some 0) {}).result
    answer.1 = none ∧ Mentions answer.2 "too large" ∧
      ∃ failure, (receive headers [] ⟨[Bytes.dot]⟩ "a" (FileLimits.settings {} (some 0))).result =
          .error failure ∧
        answer = (none, failure.message) ∧ failure.OfReceipt ∧ failure.isTooLarge = true := by
  intro headers answer
  have excess : headers.Overdeclares (FileLimits.settings {} (some 0)) :=
    overdeclares_sixty (by decide)
  have named : "a" ≠ "" := by decide
  obtain ⟨-, -, refused, large⟩ :=
    paired_unambiguous headers [] ⟨[Bytes.dot]⟩ "a" (some 0) {}
  obtain ⟨nothing, mentions⟩ := large named (.declared excess)
  obtain ⟨failure, failed, tooLarge⟩ :=
    (receive_isTooLarge_iff headers [] ⟨[Bytes.dot]⟩ "a" _).mpr ⟨named, .declared excess⟩
  obtain ⟨given, receipt, -⟩ := refused failure failed
  exact ⟨nothing, mentions, failure, failed, given, receipt, tooLarge⟩

end Upload

end Intake
