import Intake.Proofs.FormData.Ending
import Intake.Proofs.Upload.Copying
import Intake.Proofs.Upload.Declaration

/-!
# How receiving ends

An upload is refused for its size in three ways: for the length that it declares, for a part in
front of the wanted one that is longer than the memory cap (`UploadDescriptor.Obstructed`), or for
the wanted part itself (`UploadDescriptor.Overflows`). `UploadDescriptor.Ends` lists all ways in
which reading a form can end, each with the failure that is told and the warnings that are logged.

* `ends_ingest`: every request ends in one of these ways.
* `precheck_cases`: the early check refuses an upload for the declared length or says nothing of it.
* `Upload.goes_receive`: an upload is refused early, or goes as its form is read.
* `Upload.receive_isTooLarge_iff`: an upload fails for being too large just if it is refused for its
  size.
-/

namespace Intake

open FormData (Body Fault Form PartHead)

/-! ## Events -/

/-- The warnings among events, but for the one that a declared length is no number. -/
def warnings (events : List Event) : List Event :=
  events.filter fun event =>
    event.level = .warn ∧ event.message ≠ "Invalid Content-Length, skipping size precheck"

/-- The events that tell of what went well. -/
def tidings (events : List Event) : List Event :=
  events.filter fun event => event.level = .info

/-- Events that neither warn nor tell of what went well. -/
structure Quiet (events : List Event) : Prop where
  unwarned : warnings events = []
  untold : tidings events = []

variable {events more : List Event}

theorem warnings_append (events more : List Event) :
    warnings (events ++ more) = warnings events ++ warnings more :=
  List.filter_append ..

theorem tidings_append (events more : List Event) :
    tidings (events ++ more) = tidings events ++ tidings more :=
  List.filter_append ..

/-- Nothing in front of a warning matters that is quiet. -/
theorem Quiet.warnings_append (quiet : Quiet events) (more : List Event) :
    warnings (events ++ more) = warnings more := by
  rw [Intake.warnings_append, quiet.unwarned, List.nil_append]

theorem Quiet.tidings_append (quiet : Quiet events) (more : List Event) :
    tidings (events ++ more) = tidings more := by
  rw [Intake.tidings_append, quiet.untold, List.nil_append]

theorem Quiet.append (quiet : Quiet events) (still : Quiet more) : Quiet (events ++ more) :=
  ⟨(quiet.warnings_append more).trans still.unwarned,
    (quiet.tidings_append more).trans still.untold⟩

theorem quiet_of_debug (debug : ∀ event ∈ events, event.level = .debug) : Quiet events :=
  ⟨List.filter_eq_nil_iff.mpr fun event member => by simp [debug event member],
    List.filter_eq_nil_iff.mpr fun event member => by simp [debug event member]⟩

theorem quiet_notice (declared : DeclaredLength) : Quiet declared.notice := by
  cases declared <;> exact ⟨rfl, rfl⟩

namespace UploadDescriptor

/-- Faults are logged as warnings. -/
theorem warnings_noticeOfFault (d : UploadDescriptor) (fault : Fault) :
    warnings (d.noticeOfFault fault) = d.noticeOfFault fault := by
  cases fault <;> rfl

/-- What is logged when the wanted part passes the limit. -/
def overflowNotice (d : UploadDescriptor) (received : Nat) : Event where
  level := .warn
  message := "Upload size limit exceeded, aborting"
  fields := [("field", .text d.field), ("total_written", .count received),
    ("limit", .count d.limit)]

/-! ## Parts that are too long -/

/-- The parts in front of the first wanted one, or all parts if none is wanted. -/
def inFront (d : UploadDescriptor) (form : Form) : List (PartHead × List Bytes) :=
  form.parts.takeWhile fun part => !d.wants part.1

/-- A part in front of the wanted one is longer than the memory cap. -/
def Obstructed (d : UploadDescriptor) (form : Form) : Prop :=
  ∃ part ∈ d.inFront form, d.memoryCap < part.2.flatten.length

/-- The limit is one that a buffer can be reserved for. -/
def Reservable [Memory] (d : UploadDescriptor) : Prop :=
  ∃ buffer, BoundedBuffer.reserve d.limit = .ok buffer

/-- Nothing in front of the wanted part is too long, but the wanted part passes the limit of its
buffer. -/
def Overflows [Memory] (d : UploadDescriptor) (form : Form) : Prop :=
  ¬ d.Obstructed form ∧ d.Reservable ∧ ∃ part,
    form.parts.find? (fun part => d.wants part.1) = some part ∧ d.limit < part.2.flatten.length

variable {d : UploadDescriptor} {chunkSize : Nat} {head : PartHead} {frames : List Bytes}
  {rest : Form} {fault : Fault}

theorem exceedsCap_iff : d.exceedsCap frames = true ↔ d.memoryCap < frames.flatten.length := by
  rw [exceedsCap, Bytes.total_eq, decide_eq_true_iff]

theorem not_obstructed_of_wants {form : Form} {part : PartHead × List Bytes}
    {later : List (PartHead × List Bytes)} (parts : form.parts = part :: later)
    (wanted : d.wants part.1 = true) : ¬ d.Obstructed form := by
  rintro ⟨other, member, -⟩
  rw [inFront, parts, List.takeWhile_cons_of_neg (by simp [wanted])] at member
  cases member

theorem obstructed_of_exceedsCap {form : Form} {part : PartHead × List Bytes}
    {later : List (PartHead × List Bytes)} (parts : form.parts = part :: later)
    (other : d.wants part.1 = false) (long : d.exceedsCap part.2 = true) : d.Obstructed form := by
  refine ⟨part, ?_, exceedsCap_iff.mp long⟩
  rw [inFront, parts, List.takeWhile_cons_of_pos (by simp [other])]
  exact List.mem_cons_self ..

theorem overflows_iff_of_wants [Memory] {form : Form} {part : PartHead × List Bytes}
    {later : List (PartHead × List Bytes)} (parts : form.parts = part :: later)
    (wanted : d.wants part.1 = true) :
    d.Overflows form ↔ d.Reservable ∧ d.limit < part.2.flatten.length := by
  have first : form.parts.find? (fun part => d.wants part.1) = some part := by
    rw [parts]
    exact List.find?_cons_of_pos wanted
  rw [Overflows, and_iff_right (not_obstructed_of_wants parts wanted), first]
  simp

/-- A short part that is not wanted decides nothing. -/
theorem obstructed_iff_of_skipped {form : Form} {part : PartHead × List Bytes}
    (parts : form.parts = part :: rest.parts) (other : d.wants part.1 = false)
    (short : d.exceedsCap part.2 = false) : d.Obstructed form ↔ d.Obstructed rest := by
  have within : ¬ d.memoryCap < part.2.flatten.length := fun long => by
    rw [exceedsCap_iff.mpr long] at short
    cases short
  rw [Obstructed, inFront, parts, List.takeWhile_cons_of_pos (by simp [other]),
    List.exists_mem_cons_iff, or_iff_right within]
  rfl

theorem overflows_iff_of_skipped [Memory] {form : Form} {part : PartHead × List Bytes}
    (parts : form.parts = part :: rest.parts) (other : d.wants part.1 = false)
    (short : d.exceedsCap part.2 = false) : d.Overflows form ↔ d.Overflows rest := by
  rw [Overflows, Overflows, obstructed_iff_of_skipped parts other short, parts,
    List.find?_cons_of_neg (by simp [other])]

/-- In a form that carries parts the contents decide of those in front of the wanted one. -/
theorem obstructed_iff_of_carries {form : Form} {written : List FormData.Part}
    (carries : form.Carries written) :
    d.Obstructed form ↔ ∃ p ∈ d.skipped written, d.memoryCap < p.content.length := by
  induction carries with
  | closed => exact iff_of_false (by rintro ⟨_, ⟨⟩, -⟩) (by rintro ⟨_, ⟨⟩, -⟩)
  | @part p written pieces rest content _ ih =>
    have parts : (Form.part p.readHead pieces rest).parts = (p.readHead, pieces) :: rest.parts :=
      rfl
    by_cases name : p.name = d.field
    · have wanted : d.wants p.readHead = true := by
        simp [wants, FormData.Part.readHead, FormData.Part.head, name]
      have nothing : d.skipped (p :: written) = [] := by simp [skipped, name]
      rw [nothing]
      exact iff_of_false (not_obstructed_of_wants parts wanted) (by rintro ⟨_, ⟨⟩, -⟩)
    · have other : d.wants p.readHead = false := by
        simp [wants, FormData.Part.readHead, FormData.Part.head, name]
      have later : d.skipped (p :: written) = p :: d.skipped written := by simp [skipped, name]
      rw [later, List.exists_mem_cons_iff, ← content]
      cases long : d.exceedsCap pieces with
      | true =>
        exact iff_of_true (obstructed_of_exceedsCap parts other long)
          (.inl (exceedsCap_iff.mp long))
      | false =>
        have within : ¬ d.memoryCap < pieces.flatten.length := fun above => by
          rw [exceedsCap_iff.mpr above] at long
          cases long
        rw [obstructed_iff_of_skipped parts other long, ih, or_iff_right within]

/-! ## All ways to end -/

/-- How reading a form ends. It is refused for its size if it is `obstructed` or `overflows`; every
other way to end is told apart from these. -/
inductive Ends (d : UploadDescriptor) (obstructed overflows : Prop) (chunkSize : Nat)
    (t : Traced Artifact) : Prop
  | unreadable (fits : ¬ obstructed ∧ ¬ overflows) (fault : Fault)
    (failed : t.result = .error (.multipartParse fault.message)) (quiet : Quiet t.events)
  | skipped (long : obstructed) (name : Option String)
    (failed : t.result = .error (.ofFault (.fieldTooLarge name d.memoryCap)))
    (quiet : Quiet t.events)
  | unreserved (fits : ¬ obstructed ∧ ¬ overflows) (operation : String)
    (failed : t.result = .error (.internal operation)) (quiet : Quiet t.events)
  | copied (short : ¬ obstructed) (long : overflows) (received : Nat) (above : d.limit < received)
    (near : received ≤ d.limit + max chunkSize 1)
    (failed : t.result = .error (.payloadTooLarge .streaming (d.overLimitMessage received)))
    (warned : warnings t.events = [d.overflowNotice received])
  | broken (fits : ¬ obstructed ∧ ¬ overflows) (fault : Fault) (other : fault.isOfLength = false)
    (failed : t.result = .error (.ofFault fault))
    (warned : warnings t.events = d.noticeOfFault fault)
  | missing (fits : ¬ obstructed ∧ ¬ overflows)
    (failed : t.result = .error (.formFieldMissing d.field)) (quiet : Quiet t.events)
  | received (fits : ¬ obstructed ∧ ¬ overflows) (artifact : Artifact)
    (accepted : t.result = .ok artifact) (quiet : Quiet t.events)

/-- A form is refused for its size in two of these ways. -/
theorem Ends.isTooLarge_iff {obstructed overflows : Prop} {t : Traced Artifact}
    (ends : d.Ends obstructed overflows chunkSize t) :
    (∃ failure, t.result = .error failure ∧ failure.isTooLarge = true) ↔
      obstructed ∨ overflows := by
  cases ends with
  | skipped long name failed => exact iff_of_true ⟨_, failed, rfl⟩ (.inl long)
  | copied short long received above near failed =>
    exact iff_of_true ⟨_, failed, rfl⟩ (.inr long)
  | broken fits fault other failed =>
    rw [failed]
    refine iff_of_false ?_ (not_or.mpr fits)
    rintro ⟨_, ⟨⟩, large⟩
    cases fault with
    | fieldTooLarge => cases other
    | _ => cases large
  | unreadable fits _ failed | unreserved fits _ failed | missing fits failed =>
    rw [failed]
    exact iff_of_false (by rintro ⟨_, ⟨⟩, ⟨⟩⟩) (not_or.mpr fits)
  | received fits artifact accepted =>
    rw [accepted]
    exact iff_of_false (by rintro ⟨_, ⟨⟩, -⟩) (not_or.mpr fits)

/-- The wanted part is refused if it is too long for its buffer. -/
theorem ends_receivePart [Memory] (ending : Option Fault)
    (other : ∀ fault, ending = some fault → fault.isOfLength = false) :
    d.Ends False (d.Reservable ∧ d.limit < frames.flatten.length) chunkSize
      (d.receivePart chunkSize head frames ending) := by
  cases reserved : BoundedBuffer.reserve d.limit with
  | error fault =>
    have none_ : ¬ d.Reservable := by
      rintro ⟨buffer, same⟩
      rw [reserved] at same
      cases same
    rw [receivePart, reserved]
    exact .unreserved ⟨id, fun both => none_ both.1⟩ _ rfl ⟨rfl, rfl⟩
  | ok buffer =>
    obtain rfl := BoundedBuffer.eq_empty_of_reserve reserved
    rw [receivePart, reserved]
    dsimp only
    rw [Traced.bind_of_ok rfl]
    rcases Nat.lt_or_ge d.limit frames.flatten.length with long | fits
    · obtain ⟨received, above, near, -, refused⟩ := d.copy_of_overflow chunkSize head long
      have whole := refused [] ending
      rw [List.append_nil] at whole
      rw [whole]
      exact .copied id ⟨⟨_, reserved⟩, long⟩ received above near rfl rfl
    · have fit : ¬ False ∧ ¬ (d.Reservable ∧ d.limit < frames.flatten.length) :=
        ⟨id, fun both => Nat.not_lt.mpr fits both.2⟩
      rw [d.copy_of_fits chunkSize head fits]
      cases ending with
      | none =>
        exact .received fit _ rfl ⟨rfl, rfl⟩
      | some fault =>
        refine .broken fit fault (other fault rfl) rfl ?_
        exact (Quiet.warnings_append ⟨rfl, rfl⟩ _).trans (d.warnings_noticeOfFault fault)

theorem ends_abort {obstructed overflows : Prop} (fits : ¬ obstructed ∧ ¬ overflows)
    (other : fault.isOfLength = false) : d.Ends obstructed overflows chunkSize (d.abort fault) :=
  .broken fits fault other rfl (d.warnings_noticeOfFault fault)

theorem not_long_of_no_parts [Memory] {form : Form} (empty : form.parts = []) :
    ¬ d.Obstructed form ∧ ¬ d.Overflows form := by
  simp [Overflows, Obstructed, inFront, empty]

/-- A part is received if it is wanted, refused if it is too long, and passed over otherwise. -/
theorem ends_front [Memory] {form : Form} (rest : Form) {later : Traced Artifact}
    (ending : Option Fault)
    (parts : form.parts = (head, frames) :: rest.parts)
    (same : d.receiveField chunkSize form =
      if d.wants head then d.receivePart chunkSize head frames ending
      else if d.exceedsCap frames then d.abort (.fieldTooLarge head.name d.memoryCap) else later)
    (other : ∀ fault, ending = some fault → fault.isOfLength = false)
    (behind : d.Ends (d.Obstructed rest) (d.Overflows rest) chunkSize later) :
    d.Ends (d.Obstructed form) (d.Overflows form) chunkSize (d.receiveField chunkSize form) := by
  rw [same]
  split
  · next wanted =>
    rw [overflows_iff_of_wants parts wanted, iff_false_intro (not_obstructed_of_wants parts wanted)]
    exact ends_receivePart ending other
  · next ignored =>
    have ignored := Bool.eq_false_iff.mpr ignored
    split
    · next long =>
      exact .skipped (obstructed_of_exceedsCap parts ignored long) head.name rfl ⟨rfl, rfl⟩
    · next short =>
      have short := Bool.eq_false_iff.mpr short
      rw [obstructed_iff_of_skipped parts ignored short,
        overflows_iff_of_skipped parts ignored short]
      exact behind

/-- A form is refused for its size if a part in front of the wanted one is too long, or the wanted
part is. -/
theorem ends_receiveField [Memory] (form : Form)
    (other : ∀ fault, form.fault? = some fault → fault.isOfLength = false) :
    d.Ends (d.Obstructed form) (d.Overflows form) chunkSize (d.receiveField chunkSize form) := by
  induction form with
  | closed => exact .missing (not_long_of_no_parts rfl) rfl ⟨rfl, rfl⟩
  | fault fault => exact ends_abort (not_long_of_no_parts rfl) (other fault rfl)
  | part head frames rest ih =>
    exact ends_front rest none rfl rfl
      (fun _ none_ => absurd none_ (Option.some_ne_none _).symm) (ih other)
  | broken head frames fault =>
    exact ends_front .closed (some fault) rfl rfl other
      (ends_abort (not_long_of_no_parts rfl) (other fault rfl))

/-- A part in front of the wanted one of a request is longer than the memory cap. -/
def ObstructedBy (d : UploadDescriptor) (headers : Headers) (body : Body) : Prop :=
  ∃ boundary, FormData.boundary headers = .ok boundary ∧ d.Obstructed (.read boundary body)

/-- Nothing in front of the wanted part of a request is too long, but the wanted part is. -/
def OverflownBy [Memory] (d : UploadDescriptor) (headers : Headers) (body : Body) : Prop :=
  ∃ boundary, FormData.boundary headers = .ok boundary ∧ d.Overflows (.read boundary body)

theorem ingest_of_boundary [Memory] {headers : Headers} {boundary : Bytes}
    (announced : FormData.boundary headers = .ok boundary) (body : Body) :
    d.ingest headers body chunkSize = d.receiveField chunkSize (.read boundary body) := by
  rw [ingest, announced]

/-- A request that carries parts is obstructed by one of those that were written in front of the
wanted one. -/
theorem obstructedBy_iff_of_carries {headers : Headers} {body : Body} {boundary : Bytes}
    {written : List FormData.Part} (announced : FormData.boundary headers = .ok boundary)
    (carries : (Form.read boundary body).Carries written) :
    d.ObstructedBy headers body ↔ ∃ p ∈ d.skipped written, d.memoryCap < p.content.length := by
  rw [ObstructedBy, announced, ← obstructed_iff_of_carries carries]
  simp only [Except.ok.injEq, exists_eq_left']

/-- How reading the form of a request ends. -/
abbrev EndsBy [Memory] (d : UploadDescriptor) (headers : Headers) (body : Body) (chunkSize : Nat)
    (t : Traced Artifact) : Prop :=
  d.Ends (d.ObstructedBy headers body) (d.OverflownBy headers body) chunkSize t

/-- Every request ends in one of the ways. -/
theorem ends_ingest [Memory] (d : UploadDescriptor) (headers : Headers) (body : Body)
    (chunkSize : Nat) :
    d.EndsBy headers body chunkSize (d.ingest headers body chunkSize) := by
  rw [EndsBy, ingest, ObstructedBy, OverflownBy]
  cases FormData.boundary headers with
  | error fault => exact .unreadable (by simp) fault rfl ⟨rfl, rfl⟩
  | ok boundary =>
    simp only [Except.ok.injEq, exists_eq_left']
    exact ends_receiveField _ fun fault => FormData.isOfLength_fault?_read

/-! ## The early check -/

/-- What is logged when a declared length is too large. -/
def precheckNotice (d : UploadDescriptor) (declared : Nat) : Event where
  level := .warn
  message := "Declared length exceeds upload limit, rejecting before parse"
  fields := [("field", .text d.field), ("declared_length", .count declared),
    ("limit", .count d.limit)]

/-- What a client is told of a declared length, of which `payload` is left without the framing. -/
def overDeclaredMessage (d : UploadDescriptor) (payload : Nat) : String :=
  "Uploaded file was too large: " ++ ByteSize.describe payload ++
    " according to Content-Length (current limit is " ++ ByteSize.describe d.limit ++ ")"

/-- The early check refuses an upload for its declared length and warns of that, or it passes it
without a warning. -/
theorem precheck_cases (d : UploadDescriptor) (framingOverhead : Nat) :
    (∃ n, d.declared = .known n ∧ d.limit + framingOverhead < n ∧
      d.precheck framingOverhead = ⟨[d.precheckNotice n],
        .error (.payloadTooLarge .precheck (d.overDeclaredMessage (n - framingOverhead)))⟩) ∨
    ((∀ n, d.declared = .known n → n ≤ d.limit + framingOverhead) ∧
      (d.precheck framingOverhead).result = .ok () ∧
      Quiet (d.precheck framingOverhead).events) := by
  by_cases within : ∀ n, d.declared = .known n → n ≤ d.limit + framingOverhead
  · refine .inr ⟨within, precheck_of_within within, ?_⟩
    unfold precheck
    cases known : d.declared.bytes? with
    | none => exact ⟨rfl, rfl⟩
    | some n =>
      have bound := within n (DeclaredLength.bytes?_eq_some_iff.mp known)
      dsimp only
      rw [if_neg (by omega)]
      exact ⟨rfl, rfl⟩
  · simp only [not_forall, Nat.not_le] at within
    obtain ⟨n, known, beyond⟩ := within
    refine .inl ⟨n, known, beyond, ?_⟩
    unfold precheck
    rw [DeclaredLength.bytes?_eq_some_iff.mpr known]
    dsimp only
    rw [if_pos (by omega)]
    rfl

/-- The early check is passed just if no length is declared that is too large. -/
theorem overdeclares_iff {headers : Headers} {settings : UploadSettings} :
    headers.Overdeclares settings ↔ ∃ n, DeclaredLength.ofHeaders headers = .known n ∧
      settings.limit + settings.framingOverhead < n := by
  simp only [Headers.Overdeclares, DeclaredLength.ofHeaders_eq_known_iff]
  constructor
  · rintro ⟨value, n, first, read, -, beyond⟩
    exact ⟨n, ⟨value, first, read⟩, beyond⟩
  · rintro ⟨n, ⟨value, first, read⟩, beyond⟩
    exact ⟨value, n, first, read, Text.readNumeral_lt read, beyond⟩

end UploadDescriptor

/-! ## Whole uploads -/

namespace Upload

/-- What is logged of an upload that was received. -/
def receivedNotice (field : String) (artifact : Artifact) : Event where
  level := .info
  message := "Upload received"
  fields := [("field", .text field), ("filename", .text artifact.filename),
    ("bytes", .count artifact.size)]

/-- What is known of an upload before its body is read. -/
def descriptor (headers : Headers) (field : String) (settings : UploadSettings) :
    UploadDescriptor :=
  .ofSettings (.ofHeaders headers) field settings

variable {headers : Headers} {body : Body} {baseDir : FilePath} {field : String}
  {settings : UploadSettings}

/-- How receiving an upload goes: it is refused before its body is read, or it goes as reading its
form does. -/
inductive Goes [Memory] (headers : Headers) (body : Body) (baseDir : FilePath) (field : String)
    (settings : UploadSettings) (t : Traced Upload) : Prop
  | unasked (nameless : field = "")
    (same : t = ⟨[], .error (.badRequest "form field name expected")⟩)
  | overdeclared (named : field ≠ "") (excess : headers.Overdeclares settings) (n : Nat)
    (same : t = ⟨[(descriptor headers field settings).precheckNotice n],
      .error (.payloadTooLarge .precheck ((descriptor headers field settings).overDeclaredMessage
        (n - settings.framingOverhead)))⟩)
  | failed (named : field ≠ "") (within : ¬ headers.Overdeclares settings) (early : List Event)
    (quiet : Quiet early) (read : Traced Artifact)
    (ends : (descriptor headers field settings).EndsBy headers body settings.chunkSize read)
    (failure : Failure) (ended : read.result = .error failure)
    (same : t = ⟨early ++ read.events, .error failure⟩)
  | received (named : field ≠ "") (within : ¬ headers.Overdeclares settings) (early : List Event)
    (quiet : Quiet early) (read : Traced Artifact)
    (ends : (descriptor headers field settings).EndsBy headers body settings.chunkSize read)
    (artifact : Artifact) (ended : read.result = .ok artifact)
    (same : t =
      ⟨early ++ (read.events ++ [receivedNotice field artifact]), .ok ⟨artifact, baseDir⟩⟩)

theorem goes_receive [Memory] (headers : Headers) (body : Body) (baseDir : FilePath)
    (field : String) (settings : UploadSettings) :
    Goes headers body baseDir field settings (receive headers body baseDir field settings) := by
  by_cases nameless : field = ""
  · exact .unasked nameless (if_pos nameless)
  have noticed := quiet_notice (.ofHeaders headers)
  unfold receive
  rw [if_neg nameless, Traced.bind_of_ok rfl]
  obtain ⟨n, declared, beyond, refused⟩ | ⟨within, passed, checked⟩ :=
    (descriptor headers field settings).precheck_cases settings.framingOverhead
  · have unnoticed : (DeclaredLength.ofHeaders headers).notice = [] := by
      rw [show DeclaredLength.ofHeaders headers = .known n from declared]
      rfl
    refine .overdeclared nameless
      (UploadDescriptor.overdeclares_iff.mpr ⟨n, declared, beyond⟩) n ?_
    rw [descriptor] at refused
    rw [refused, Traced.bind_of_error rfl, Traced.logAll, unnoticed]
    rfl
  · have within : ¬ headers.Overdeclares settings := fun excess => by
      obtain ⟨n, declared, beyond⟩ := UploadDescriptor.overdeclares_iff.mp excess
      exact absurd (within n declared) (Nat.not_le.mpr beyond)
    have ends := (descriptor headers field settings).ends_ingest headers body settings.chunkSize
    have quiet := noticed.append checked
    rw [descriptor] at passed
    rw [Traced.bind_of_ok passed]
    dsimp only [descriptor] at ends quiet ⊢
    generalize UploadDescriptor.ingest _ headers body settings.chunkSize = read at ends
    cases ended : read.result with
    | error failure =>
      refine .failed nameless within _ quiet read ends failure ended ?_
      rw [Traced.bind_of_error ended]
      dsimp only [Traced.logAll]
      rw [List.append_assoc]
    | ok artifact =>
      refine .received nameless within _ quiet read ends artifact ended ?_
      rw [Traced.bind_of_ok ended]
      simp only [Traced.log, Traced.logAll, bind, pure, Traced.andThen, List.append_assoc,
        List.append_nil]
      rfl

/-- Why an upload is refused for its size. -/
inductive TooLarge [Memory] (headers : Headers) (body : Body) (field : String)
    (settings : UploadSettings) : Prop
  | declared (excess : headers.Overdeclares settings)
  | skipped (within : ¬ headers.Overdeclares settings)
    (long : (descriptor headers field settings).ObstructedBy headers body)
  | copied (within : ¬ headers.Overdeclares settings)
    (long : (descriptor headers field settings).OverflownBy headers body)

theorem tooLarge_iff_of_not_overdeclares [Memory] (within : ¬ headers.Overdeclares settings) :
    TooLarge headers body field settings ↔
      (descriptor headers field settings).ObstructedBy headers body ∨
        (descriptor headers field settings).OverflownBy headers body := by
  constructor
  · intro large
    cases large with
    | declared excess => exact absurd excess within
    | skipped _ long => exact .inl long
    | copied _ long => exact .inr long
  · rintro (long | long)
    · exact .skipped within long
    · exact .copied within long

/-- An upload fails for being too large just if it has a field name and is refused for its size. -/
theorem receive_isTooLarge_iff [Memory] (headers : Headers) (body : Body) (baseDir : FilePath)
    (field : String) (settings : UploadSettings) :
    (∃ failure, (receive headers body baseDir field settings).result = .error failure ∧
        failure.isTooLarge = true) ↔ field ≠ "" ∧ TooLarge headers body field settings := by
  cases goes_receive headers body baseDir field settings with
  | unasked nameless same =>
    rw [same]
    exact iff_of_false (by rintro ⟨_, ⟨⟩, ⟨⟩⟩) fun both => both.1 nameless
  | overdeclared named excess n same =>
    rw [same]
    exact iff_of_true ⟨_, rfl, rfl⟩ ⟨named, .declared excess⟩
  | failed named within _ _ read ends failure ended same =>
    rw [same, and_iff_right named, tooLarge_iff_of_not_overdeclares within, ← ends.isTooLarge_iff,
      ended]
    simp only [Except.error.injEq]
  | received named within _ _ read ends artifact ended same =>
    rw [same, and_iff_right named, tooLarge_iff_of_not_overdeclares within, ← ends.isTooLarge_iff,
      ended]
    exact iff_of_false (by rintro ⟨_, ⟨⟩, -⟩) (by rintro ⟨_, ⟨⟩, -⟩)

end Upload

end Intake
