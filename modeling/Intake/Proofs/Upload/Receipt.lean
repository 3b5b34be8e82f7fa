import Intake.Proofs.FormData.Announcement
import Intake.Proofs.FormData.RoundTrip
import Intake.Upload

/-!
# What is received of written parts

A body that carries parts, however it is cut into frames and wherever it has to be waited for,
is received as its parts tell (`UploadDescriptor.Receives`). They are gone through in order: a
part in front of the wanted one may be no longer than the memory cap, and the wanted one no
longer than the limit.

* `extendAll?_of_fits`, `extendAll?_of_overflow`: pieces fit into a bounded buffer exactly if
  their total does.
* `receivePart_eq_ok_iff`: when the wanted part is accepted, and as what.
* `receives_of_carries`: what a form that carries parts is received as.
* `receives_ingest`: what a request that carries parts is received as.
* `Upload.receive_eq_ok_iff`: when an upload is received, and what it holds.
* `Upload.receive_baseDir`: what is received does not depend on where saves start from.
* `Upload.size_le_of_receive`: what is received is within the limit, whatever arrives.
-/

namespace Intake

/-! ## Bounded buffers -/

namespace BoundedBuffer

variable {b : BoundedBuffer} {pieces : List Bytes}

theorem eq_empty_of_reserve [Memory] {limit : Nat} (h : reserve limit = .ok b) :
    b = .empty limit := by
  unfold reserve at h
  split at h
  · cases h
  · split at h
    · exact (Except.ok.inj h).symm
    · cases h

theorem extend?_of_fits {piece : Bytes} (fits : b.size + piece.length ≤ b.limit) :
    ∃ next, b.extend? piece = .ok next ∧ next.size = b.size + piece.length := by
  rw [extend?, dif_pos fits]
  exact ⟨_, rfl, rfl⟩

/-- Pieces whose total is within the limit are gathered in order. -/
theorem extendAll?_of_fits (fits : b.size + Bytes.total pieces ≤ b.limit) :
    ∃ full, b.extendAll? pieces = .ok full ∧ full.contents = b.contents ++ pieces.flatten := by
  induction pieces generalizing b with
  | nil => exact ⟨b, rfl, by rw [List.flatten_nil, List.append_nil]⟩
  | cons piece pieces ih =>
    rw [Bytes.total] at fits
    have first : b.size + piece.length ≤ b.limit := by omega
    obtain ⟨next, extended, size⟩ := extend?_of_fits first
    have room : next.size + Bytes.total pieces ≤ next.limit := by
      rw [size, limit_extend? extended]
      omega
    obtain ⟨full, gathered, contents⟩ := ih room
    refine ⟨full, by rw [extendAll?, extended]; exact gathered, ?_⟩
    rw [contents, contents_extend? extended, List.flatten_cons, List.append_assoc]

/-- Pieces whose total is beyond the limit are refused, by the time it is passed. -/
theorem extendAll?_of_overflow (beyond : b.limit < b.size + Bytes.total pieces) :
    ∃ overflow, b.extendAll? pieces = .error overflow ∧ b.limit < overflow.attempted ∧
      overflow.attempted ≤ b.size + Bytes.total pieces := by
  induction pieces generalizing b with
  | nil =>
    have within := b.size_le
    rw [Bytes.total] at beyond
    omega
  | cons piece pieces ih =>
    rw [Bytes.total] at beyond ⊢
    rcases Nat.lt_or_ge b.limit (b.size + piece.length) with passes | fits
    · refine ⟨⟨b.size + piece.length⟩, ?_, passes, by dsimp only; omega⟩
      rw [extendAll?, extend?, dif_neg (Nat.not_le.mpr passes)]
    · obtain ⟨next, extended, size⟩ := extend?_of_fits fits
      rw [← limit_extend? extended, ← Nat.add_assoc, ← size] at beyond ⊢
      rw [extendAll?, extended]
      exact ih beyond

end BoundedBuffer

/-- Cutting frames does not change what they read. -/
theorem flatten_flatMap_pieces (size : Nat) (frames : List Bytes) :
    (frames.flatMap (pieces size)).flatten = frames.flatten := by
  induction frames with
  | nil => rfl
  | cons frame frames ih =>
    rw [List.flatMap_cons, List.flatten_append, flatten_pieces, ih, List.flatten_cons]

open FormData (Announceable Body Form Part PartHead announcement)

/-! ## Parts of a form -/

/-- The artifact that is received of a part. -/
def FormData.Part.received (p : Part) : Artifact where
  bytes := p.content
  filename := p.readHead.filename.getD ""
  mimeType := p.readHead.contentType

namespace UploadDescriptor

variable {d : UploadDescriptor}

/-- What a client is told of a part that is longer than the limit. -/
def overLimitMessage (d : UploadDescriptor) (received : Nat) : String :=
  "Uploaded file was too large: more than " ++ ByteSize.describe received ++
    " received (limit is " ++ ByteSize.describe d.limit ++ ")"

/-- What a client is told of a part that is longer than the memory cap. -/
def overCapMessage (d : UploadDescriptor) (p : Part) : String :=
  (FormData.Fault.fieldTooLarge (some p.name) d.memoryCap).message

/-- The parts in front of the first one with the wanted name. -/
def skipped (d : UploadDescriptor) (parts : List Part) : List Part :=
  parts.takeWhile (·.name != d.field)

/-- The first part with the wanted name. -/
def wanted? (d : UploadDescriptor) (parts : List Part) : Option Part :=
  parts.find? (·.name == d.field)

/-- What receiving the wanted part comes to. -/
def ReceivesPart (d : UploadDescriptor) (p : Part) (result : Except Failure Artifact) : Prop :=
  if p.content.length ≤ d.limit then result = .ok p.received
  else ∃ received, d.limit < received ∧ received ≤ p.content.length ∧
    result = .error (.payloadTooLarge .streaming (d.overLimitMessage received))

/-- What receiving the wanted field comes to, told from the parts that were written. -/
def Receives (d : UploadDescriptor) (parts : List Part) (result : Except Failure Artifact) :
    Prop :=
  match (d.skipped parts).find? (d.memoryCap < ·.content.length) with
  | some p => result = .error (.payloadTooLarge .streaming (d.overCapMessage p))
  | none =>
    match d.wanted? parts with
    | none => result = .error (.formFieldMissing d.field)
    | some p => d.ReceivesPart p result

section

variable {chunkSize : Nat} {head : PartHead} {frames : List Bytes}
  {ending : Option FormData.Fault} {buffer : BoundedBuffer}

/-- An upload that is given up is not received. -/
theorem abort_ne_ok {artifact : Artifact} (fault : FormData.Fault) :
    (d.abort fault).result ≠ .ok artifact := by
  intro accepted
  cases accepted

variable [Memory]

/-- The wanted part, if it is within the limit, is received unless it breaks off. -/
theorem receivePart_of_fits (reserved : BoundedBuffer.reserve d.limit = .ok buffer)
    (fits : frames.flatten.length ≤ d.limit) :
    (d.receivePart chunkSize head frames ending).result =
      match ending with
      | none => .ok ⟨frames.flatten, head.filename.getD "", head.contentType⟩
      | some fault => .error (.ofFault fault) := by
  obtain rfl := BoundedBuffer.eq_empty_of_reserve reserved
  have total : Bytes.total (frames.flatMap (pieces chunkSize)) = frames.flatten.length := by
    rw [Bytes.total_eq, flatten_flatMap_pieces]
  have room : (BoundedBuffer.empty d.limit).size +
      Bytes.total (frames.flatMap (pieces chunkSize)) ≤ d.limit := by
    rw [total, BoundedBuffer.empty, Nat.zero_add]
    exact fits
  obtain ⟨full, gathered, contents⟩ := BoundedBuffer.extendAll?_of_fits room
  have whole : full.contents = frames.flatten := by
    rw [contents, flatten_flatMap_pieces]
    rfl
  rw [receivePart, reserved]
  dsimp only
  rw [Traced.bind_of_ok rfl]
  dsimp only [copy]
  rw [gathered, ← whole]
  cases ending <;> rfl

/-- The wanted part, if it is beyond the limit, is refused by the time it passes it. -/
theorem receivePart_of_overflow (reserved : BoundedBuffer.reserve d.limit = .ok buffer)
    (long : d.limit < frames.flatten.length) :
    ∃ received, d.limit < received ∧ received ≤ frames.flatten.length ∧
      (d.receivePart chunkSize head frames ending).result =
        .error (.payloadTooLarge .streaming (d.overLimitMessage received)) := by
  obtain rfl := BoundedBuffer.eq_empty_of_reserve reserved
  have total : (BoundedBuffer.empty d.limit).size +
      Bytes.total (frames.flatMap (pieces chunkSize)) = frames.flatten.length := by
    rw [Bytes.total_eq, flatten_flatMap_pieces, BoundedBuffer.empty, Nat.zero_add]
  obtain ⟨overflow, refused, above, below⟩ :=
    BoundedBuffer.extendAll?_of_overflow (b := .empty d.limit) (total.symm ▸ long)
  refine ⟨overflow.attempted, above, total ▸ below, ?_⟩
  rw [receivePart, reserved]
  dsimp only
  rw [Traced.bind_of_ok rfl]
  dsimp only [copy]
  rw [refused]
  rfl

/-- The wanted part is accepted if its limit can be reserved, it is within the limit, and it does
not break off. -/
theorem receivePart_eq_ok_iff {artifact : Artifact} :
    (d.receivePart chunkSize head frames ending).result = .ok artifact ↔
      (∃ buffer, BoundedBuffer.reserve d.limit = .ok buffer) ∧
        frames.flatten.length ≤ d.limit ∧ ending = none ∧
        artifact = ⟨frames.flatten, head.filename.getD "", head.contentType⟩ := by
  cases reserved : BoundedBuffer.reserve d.limit with
  | error fault =>
    rw [receivePart, reserved]
    constructor
    · intro accepted
      cases accepted
    · rintro ⟨⟨buffer, reservedToo⟩, -⟩
      cases reservedToo
  | ok buffer =>
    rcases Nat.lt_or_ge d.limit frames.flatten.length with long | fits
    · constructor
      · intro accepted
        obtain ⟨received, -, -, refused⟩ := receivePart_of_overflow reserved long
        rw [refused] at accepted
        cases accepted
      · rintro ⟨-, fits, -⟩
        exact absurd long (Nat.not_lt.mpr fits)
    · rw [receivePart_of_fits reserved fits]
      cases ending with
      | none =>
        constructor
        · intro accepted
          cases accepted
          exact ⟨⟨buffer, rfl⟩, fits, rfl, rfl⟩
        · rintro ⟨-, -, -, rfl⟩
          rfl
      | some fault =>
        constructor
        · intro accepted
          cases accepted
        · rintro ⟨-, -, ended, -⟩
          cases ended

/-- Of a form that breaks off within a part nothing is received. -/
theorem receiveField_broken_ne_ok {artifact : Artifact} (head : PartHead) (frames : List Bytes)
    (fault : FormData.Fault) :
    (d.receiveField chunkSize (.broken head frames fault)).result ≠ .ok artifact := by
  intro accepted
  rw [receiveField] at accepted
  split at accepted
  · obtain ⟨-, -, ended, -⟩ := receivePart_eq_ok_iff.mp accepted
    cases ended
  · split at accepted
    · exact abort_ne_ok _ accepted
    · exact abort_ne_ok _ accepted

theorem receivesPart_receivePart (chunkSize : Nat) {p : Part} {frames : List Bytes}
    {buffer : BoundedBuffer}
    (reserved : BoundedBuffer.reserve d.limit = .ok buffer) (content : frames.flatten = p.content) :
    d.ReceivesPart p (d.receivePart chunkSize p.readHead frames none).result := by
  unfold ReceivesPart
  split
  · next fits =>
    rw [receivePart_of_fits reserved (content ▸ fits), content]
    rfl
  · next long =>
    rw [Nat.not_le] at long
    rw [← content] at long ⊢
    exact receivePart_of_overflow reserved long

/-- A form that carries parts is received as its parts tell. -/
theorem receives_of_carries (chunkSize : Nat) {form : Form} {parts : List Part}
    {buffer : BoundedBuffer}
    (reserved : BoundedBuffer.reserve d.limit = .ok buffer) (carries : form.Carries parts) :
    d.Receives parts (d.receiveField chunkSize form).result := by
  induction carries with
  | closed => rfl
  | @part p parts frames rest content _ ih =>
    rw [receiveField]
    by_cases name : p.name = d.field
    · have wants : d.wants p.readHead = true := by simp [wants, Part.readHead, Part.head, name]
      have first : d.skipped (p :: parts) = [] := by simp [skipped, name]
      have found : d.wanted? (p :: parts) = some p := by simp [wanted?, name]
      rw [if_pos wants, Receives, first, found]
      exact receivesPart_receivePart chunkSize reserved content
    · have ignores : ¬ d.wants p.readHead = true := by
        simp [wants, Part.readHead, Part.head, name]
      have later : d.skipped (p :: parts) = p :: d.skipped parts := by simp [skipped, name]
      have other : d.wanted? (p :: parts) = d.wanted? parts := by simp [wanted?, name]
      have length : Bytes.total frames = p.content.length := by rw [Bytes.total_eq, content]
      rw [if_neg ignores, Receives, later, other, exceedsCap, length]
      by_cases long : d.memoryCap < p.content.length
      · rw [if_pos (by simpa using long), List.find?_cons_of_pos (by simpa using long)]
        rfl
      · rw [if_neg (by simpa using long), List.find?_cons_of_neg (by simpa using long)]
        exact ih

/-- A request that announces its boundary and carries parts is received as its parts tell. -/
theorem receives_ingest (chunkSize : Nat) {boundary : String} {parts : List Part}
    {headers : Headers} {body : Body} {buffer : BoundedBuffer}
    (announceable : Announceable boundary)
    (announced : headers.first? "content-type" = some (announcement boundary).2)
    (writable : ∀ p ∈ parts, p.Writable (Bytes.ofString boundary))
    (carried : body.CarriesParts (Bytes.ofString boundary) parts)
    (reserved : BoundedBuffer.reserve d.limit = .ok buffer) :
    d.Receives parts (d.ingest headers body chunkSize).result := by
  rw [ingest, FormData.boundary_of_announcement announceable announced]
  exact receives_of_carries chunkSize reserved
    (FormData.carries_read announceable.cr_not_mem_delimiter writable carried)

end

/-- The second of two parts is received from a body that has to be waited for. -/
theorem receives_ingest_second_of_two :
    ((⟨.absent, "b", 4, 4⟩ : UploadDescriptor).ingest [announcement "B"]
      [.frame (FormData.delimiter (Bytes.ofString "B")), .wait,
        .frame (FormData.behind (Bytes.ofString "B") [⟨"a", .text, [0x2D, 0x0D]⟩,
          ⟨"b", .file "f.txt" (some "text/plain"), [0x68, 0x69]⟩])] 1).result =
      .ok ⟨[0x68, 0x69], "f.txt", "text/plain"⟩ := by
  have writable : ∀ p ∈ ([⟨"a", .text, [0x2D, 0x0D]⟩,
      ⟨"b", .file "f.txt" (some "text/plain"), [0x68, 0x69]⟩] : List Part),
      p.Writable (Bytes.ofString "B") := by
    intro p member
    have named (s : String) (names : s.toList.all FormData.isNameChar = true) :
        ∀ c ∈ s.toList, FormData.isNameChar c = true := List.all_eq_true.mp names
    have typed : FormData.Legible (Bytes.ofString "text/plain") :=
      FormData.legible_of_visible (by decide) (List.all_eq_true.mp (by decide))
    simp only [List.mem_cons, List.not_mem_nil, or_false] at member
    rcases member with rfl | rfl
    · exact ⟨⟨by decide, named "a" (by decide)⟩, nofun, nofun,
        Bytes.cut?_eq_none_iff.mp (by decide)⟩
    · refine ⟨⟨by decide, named "b" (by decide)⟩, fun filename given => ?_,
        fun contentType given => ?_, Bytes.cut?_eq_none_iff.mp (by decide)⟩
      · obtain rfl := Option.some.inj given
        exact ⟨by decide, named "f.txt" (by decide)⟩
      · obtain rfl := Option.some.inj given
        exact typed
  have received := receives_ingest (d := ⟨.absent, "b", 4, 4⟩) 1
    ⟨by decide, List.all_eq_true.mp (by decide)⟩ (FormData.first?_announcement "B" []) writable
    (.waiting (Bytes.ofString "B") _) rfl
  have clear : Part.misread ⟨"b", .file "f.txt" (some "text/plain"), [0x68, 0x69]⟩ = false := by
    decide
  simpa [Receives, skipped, wanted?, ReceivesPart, Part.received, Part.readHead, Part.head, clear,
    FormData.PartKind.filename?, FormData.PartKind.contentType] using received

end UploadDescriptor

/-! ## Uploads -/

variable [Memory]

namespace Upload

variable {headers : Headers} {body : Body} {baseDir : FilePath} {field : String}
  {settings : UploadSettings}

/-- An upload that passes the early check comes to what its body is read as. -/
theorem receive_of_checked (named : field ≠ "")
    (checked : ((UploadDescriptor.ofSettings (.ofHeaders headers) field settings).precheck
      settings.framingOverhead).result = .ok ()) :
    (receive headers body baseDir field settings).result =
      ((UploadDescriptor.ofSettings (.ofHeaders headers) field settings).ingest headers body
        settings.chunkSize).result.map fun artifact => { artifact, baseDir } := by
  unfold receive
  rw [if_neg named, Traced.bind_of_ok rfl, Traced.bind_of_ok checked]
  dsimp only
  generalize UploadDescriptor.ingest _ headers body settings.chunkSize = read
  cases ended : read.result with
  | error failure => rw [Traced.bind_of_error ended]; rfl
  | ok artifact => rw [Traced.bind_of_ok ended]; rfl

/-- An upload that the early check refuses fails as the check does. -/
theorem receive_of_refused (named : field ≠ "") {failure : Failure}
    (refused : ((UploadDescriptor.ofSettings (.ofHeaders headers) field settings).precheck
      settings.framingOverhead).result = .error failure) :
    (receive headers body baseDir field settings).result = .error failure := by
  unfold receive
  rw [if_neg named, Traced.bind_of_ok rfl, Traced.bind_of_error refused]

/-- An upload is received if a field is named, the declared length is not too large, and the body
is read as its artifact. -/
theorem receive_eq_ok_iff {upload : Upload} :
    (receive headers body baseDir field settings).result = .ok upload ↔
      field ≠ "" ∧
        ((UploadDescriptor.ofSettings (.ofHeaders headers) field settings).precheck
          settings.framingOverhead).result = .ok () ∧
        ((UploadDescriptor.ofSettings (.ofHeaders headers) field settings).ingest headers body
          settings.chunkSize).result = .ok upload.artifact ∧
        upload.baseDir = baseDir := by
  unfold receive
  split
  · next nameless =>
    constructor
    · intro received
      cases received
    · rintro ⟨named, -⟩
      exact absurd nameless named
  · next named =>
    simp only [Traced.result_bind_eq_ok_iff]
    constructor
    · rintro ⟨⟨⟩, -, ⟨⟩, checked, artifact, read, ⟨⟩, -, whole⟩
      cases whole
      exact ⟨named, checked, read, rfl⟩
    · rintro ⟨-, checked, read, rfl⟩
      exact ⟨(), rfl, (), checked, upload.artifact, read, (), rfl, rfl⟩

/-- What is received does not depend on the directory that saves start from. -/
theorem receive_baseDir (headers : Headers) (body : Body) (first second : FilePath)
    (field : String) (settings : UploadSettings) :
    (receive headers body second field settings).result =
      (receive headers body first field settings).result.map fun upload =>
        { upload with baseDir := second } := by
  by_cases nameless : field = ""
  · rw [receive, if_pos nameless, receive, if_pos nameless]
    rfl
  · cases checked : ((UploadDescriptor.ofSettings (.ofHeaders headers) field settings).precheck
        settings.framingOverhead).result with
    | error failure =>
      rw [receive_of_refused nameless checked, receive_of_refused nameless checked]
      rfl
    | ok passed =>
      rw [receive_of_checked nameless checked, receive_of_checked nameless checked]
      generalize UploadDescriptor.ingest _ headers body settings.chunkSize = read
      cases read.result <;> rfl

end Upload

/-! ## Sizes -/

namespace UploadDescriptor

variable {d : UploadDescriptor} {chunkSize : Nat} {artifact : Artifact}

/-- What is received of a form is within the limit. -/
theorem size_le_of_receiveField {form : Form}
    (accepted : (d.receiveField chunkSize form).result = .ok artifact) :
    artifact.size ≤ d.limit := by
  induction form with
  | closed => cases accepted
  | fault f => cases accepted
  | broken head pieces f => exact absurd accepted (receiveField_broken_ne_ok head pieces f)
  | part head pieces rest ih =>
    rw [receiveField] at accepted
    split at accepted
    · obtain ⟨-, fits, -, rfl⟩ := receivePart_eq_ok_iff.mp accepted
      exact fits
    · split at accepted
      · exact absurd accepted (abort_ne_ok _)
      · exact ih accepted

/-- What is received is within the limit, whatever arrives. -/
theorem size_le_of_ingest {headers : Headers} {body : Body}
    (accepted : (d.ingest headers body chunkSize).result = .ok artifact) :
    artifact.size ≤ d.limit := by
  rw [ingest] at accepted
  split at accepted
  · cases accepted
  · exact size_le_of_receiveField accepted

end UploadDescriptor

/-- An upload is no larger than its settings allow. -/
theorem Upload.size_le_of_receive {headers : Headers} {body : Body} {baseDir : FilePath}
    {field : String} {settings : UploadSettings} {upload : Upload}
    (received : (Upload.receive headers body baseDir field settings).result = .ok upload) :
    upload.artifact.size ≤ settings.limit :=
  UploadDescriptor.size_le_of_ingest (Upload.receive_eq_ok_iff.mp received).2.2.1

end Intake
