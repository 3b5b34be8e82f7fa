import Intake.Proofs.FormData.Framing
import Intake.Proofs.FormData.Truncation
import Intake.Proofs.Upload.Receipt

/-!
# How a body arrives does not decide what is received

Whether an upload is accepted, and as what, is told by the octets of its body. How these are cut
into frames, and where they have to be waited for, does not matter. If the body breaks off before
the delimiter behind the wanted part, the client is told so, and nothing is received.

* `receiveField_eq_ok_iff_of_alike`: forms that hold the same parts are received as the same
  artifact, or neither is received.
* `ingest_eq_ok_iff_of_octets`: bodies with the same octets are received as the same artifact, or
  neither is received.
* `streamRead_of_cutShort`: a form that was cut short ends in a failure to read.
* `ingest_streamRead_of_lost`: so does a body that breaks off before the delimiter behind the
  wanted part, wherever it does.
-/

namespace Intake.UploadDescriptor

open FormData (Body Form Part PartHead announcement)

variable {d : UploadDescriptor} {chunkSize : Nat} {artifact : Artifact}

/-- Whether an upload is given up in front of a part is told by the content of that part. -/
theorem exceedsCap_of_flatten {frames others : List Bytes}
    (content : frames.flatten = others.flatten) : d.exceedsCap frames = d.exceedsCap others := by
  rw [exceedsCap, exceedsCap, Bytes.total_eq, Bytes.total_eq, content]

/-- Forms that hold the same parts are received as the same artifact, or neither is received. -/
theorem receiveField_eq_ok_iff_of_alike [Memory] {form other : Form} (alike : form.Alike other) :
    (d.receiveField chunkSize form).result = .ok artifact ↔
      (d.receiveField chunkSize other).result = .ok artifact := by
  induction alike with
  | closed => exact Iff.rfl
  | fault f => exact Iff.rfl
  | broken head pieces others f =>
    exact iff_of_false (receiveField_broken_ne_ok head pieces f)
      (receiveField_broken_ne_ok head others f)
  | @part head pieces others rest behind content _ ih =>
    rw [receiveField, receiveField, exceedsCap_of_flatten content]
    split
    · rw [receivePart_eq_ok_iff, receivePart_eq_ok_iff, content]
    · split
      · exact Iff.rfl
      · exact ih

/-- Bodies with the same octets are received as the same artifact, or neither is received, if in
both the first delimiter is there before anything has to be waited for. -/
theorem ingest_eq_ok_iff_of_octets [Memory] {headers : Headers} {boundary : Bytes}
    {body other : Body}
    (announced : FormData.boundary headers = .ok boundary) (steady : body.Steady)
    (still : other.Steady) (same : body.octets = other.octets)
    (begins : body.Begins (FormData.delimiter boundary))
    (beginsToo : other.Begins (FormData.delimiter boundary)) :
    (d.ingest headers body chunkSize).result = .ok artifact ↔
      (d.ingest headers other chunkSize).result = .ok artifact := by
  have once := FormData.cr_not_mem_delimiter_of_boundary announced
  have alike := FormData.alike_read once steady still same begins beginsToo
  rw [ingest, ingest, announced]
  exact receiveField_eq_ok_iff_of_alike alike

/-- What is received of a body that has to be waited for is received of it in one frame. -/
theorem ingest_eq_ok_iff_of_octets_one_frame :
    ((⟨.absent, "a", 4, 4⟩ : UploadDescriptor).ingest [announcement "B"]
      [.frame (FormData.encode (Bytes.ofString "B") [⟨"a", .text, [0x68, 0x0D]⟩])] 1).result =
      .ok ⟨[0x68, 0x0D], "", ""⟩ := by
  have announceable : FormData.Announceable "B" := ⟨by decide, List.all_eq_true.mp (by decide)⟩
  have announced :=
    FormData.boundary_of_announcement announceable (FormData.first?_announcement "B" [])
  have writable : ∀ p ∈ ([⟨"a", .text, [0x68, 0x0D]⟩] : List Part),
      p.Writable (Bytes.ofString "B") := by
    intro p member
    obtain rfl := List.mem_singleton.mp member
    exact ⟨⟨by decide, List.all_eq_true.mp (by decide)⟩, nofun, nofun,
      Bytes.cut?_eq_none_iff.mp (by decide)⟩
  have waiting := Body.CarriesParts.waiting (Bytes.ofString "B") [⟨"a", .text, [0x68, 0x0D]⟩]
  have atOnce := Body.CarriesParts.atOnce (Bytes.ofString "B") [⟨"a", .text, [0x68, 0x0D]⟩]
  have received := receives_of_carries (d := ⟨.absent, "a", 4, 4⟩) 1 rfl
    (FormData.carries_read announceable.cr_not_mem_delimiter writable waiting)
  refine (ingest_eq_ok_iff_of_octets announced waiting.steady atOnce.steady ?_ ?_ ?_).mp ?_
  · rw [waiting.octets, atOnce.octets]
  · exact fun _ => waiting.begun.isInfix
  · exact fun _ => atOnce.begun.isInfix
  · rw [ingest, announced]
    exact received

/-! ## Bodies that break off -/

/-- A part that stands in front of the wanted one, and is not too long for that. -/
def Skips (d : UploadDescriptor) (p : Part) : Prop :=
  p.name ≠ d.field ∧ p.content.length ≤ d.memoryCap

/-- The wanted part, and not too long for that. -/
def Accepts (d : UploadDescriptor) (p : Part) : Prop :=
  p.name = d.field ∧ p.content.length ≤ d.limit

theorem Skips.wants_eq_false {p : Part} (skips : d.Skips p) : d.wants p.readHead = false := by
  simpa [wants, Part.readHead, Part.head] using skips.1

theorem Accepts.wants {p : Part} (accepts : d.Accepts p) : d.wants p.readHead = true := by
  simpa [UploadDescriptor.wants, Part.readHead, Part.head] using accepts.1

/-- No start of a part is longer than it may be if the whole of it is not. -/
theorem Skips.exceedsCap_eq_false {p : Part} {pieces : List Bytes} (skips : d.Skips p)
    (start : pieces.flatten <+: p.content) : d.exceedsCap pieces = false := by
  have short := start.length_le
  have within := skips.2
  rw [exceedsCap, Bytes.total_eq, decide_eq_false_iff_not]
  omega

/-- A client is told of a loss as a failure to read. -/
theorem exists_streamRead_of_breaksOff {fault : FormData.Fault} (breaks : fault.BreaksOff) :
    ∃ message, Failure.ofFault fault = .streamRead message := by
  cases breaks with
  | betweenParts => exact ⟨_, rfl⟩
  | withinPart name => exact ⟨_, rfl⟩
  | failed message => exact ⟨_, rfl⟩

/-- A form that was cut short before the end of the wanted part ends in a failure to read. -/
theorem streamRead_of_cutShort [Memory] {form : Form} {before : List Part} {p : Part}
    {buffer : BoundedBuffer} (reserved : BoundedBuffer.reserve d.limit = .ok buffer)
    (skips : ∀ q ∈ before, d.Skips q) (accepts : d.Accepts p)
    (cut : form.CutShort (before ++ [p])) :
    ∃ message, (d.receiveField chunkSize form).result = .error (.streamRead message) := by
  induction before generalizing form with
  | nil =>
    rw [List.nil_append] at cut
    cases cut with
    | between breaks =>
      obtain ⟨message, told⟩ := exists_streamRead_of_breaksOff breaks
      exact ⟨message, congrArg Except.error told⟩
    | within breaks start =>
      obtain ⟨message, told⟩ := exists_streamRead_of_breaksOff breaks
      have fits := Nat.le_trans start.length_le accepts.2
      refine ⟨message, ?_⟩
      rw [receiveField, if_pos accepts.wants, receivePart_of_fits reserved fits]
      exact congrArg Except.error told
    | part content others => cases others
  | cons q before ih =>
    have first := skips q (List.mem_cons_self ..)
    have unwanted : ¬ d.wants q.readHead = true := by
      rw [first.wants_eq_false]
      exact Bool.false_ne_true
    rw [List.cons_append] at cut
    cases cut with
    | between breaks =>
      obtain ⟨message, told⟩ := exists_streamRead_of_breaksOff breaks
      exact ⟨message, congrArg Except.error told⟩
    | within breaks start =>
      obtain ⟨message, told⟩ := exists_streamRead_of_breaksOff breaks
      refine ⟨message, ?_⟩
      rw [receiveField, if_neg unwanted, first.exceedsCap_eq_false start]
      exact congrArg Except.error told
    | part content others =>
      rw [receiveField, if_neg unwanted,
        first.exceedsCap_eq_false (content ▸ List.prefix_refl _)]
      exact ih (fun q member => skips q (List.mem_cons_of_mem _ member)) others

/-- A body that carries parts, but ends or fails before the delimiter behind the wanted one is
there, ends in a failure to read. -/
theorem ingest_streamRead_of_lost [Memory] {boundary : String} {before later : List Part} {p : Part}
    {headers : Headers} {body : Body} {buffer : BoundedBuffer}
    (announceable : FormData.Announceable boundary)
    (announced : headers.first? "content-type" = some (announcement boundary).2)
    (writable : ∀ q ∈ before ++ p :: later, q.Writable (Bytes.ofString boundary))
    (reserved : BoundedBuffer.reserve d.limit = .ok buffer)
    (skips : ∀ q ∈ before, d.Skips q) (accepts : d.Accepts p)
    (kept : body.arriving <+: FormData.encode (Bytes.ofString boundary) (before ++ p :: later))
    (short : body.arriving.length <
      ((before ++ [p]).flatMap (Part.encode (Bytes.ofString boundary)) ++
        FormData.delimiter (Bytes.ofString boundary)).length) :
    ∃ message, (d.ingest headers body chunkSize).result = .error (.streamRead message) := by
  rw [List.append_cons] at writable kept
  have some_ : before ++ [p] ≠ [] := by simp
  have cut := FormData.cutShort_read announceable.cr_not_mem_delimiter some_ writable kept short
  rw [ingest, FormData.boundary_of_announcement announceable announced]
  exact streamRead_of_cutShort reserved skips accepts cut

/-- The connection fails within the delimiter behind the wanted part. -/
theorem ingest_streamRead_of_lost_within_delimiter :
    ∃ message, ((⟨.absent, "b", 4, 4⟩ : UploadDescriptor).ingest [announcement "B"]
      [.wait, .frame (Part.encode (Bytes.ofString "B") ⟨"a", .text, [0x2D, 0x0D]⟩), .wait,
        .frame (Part.encode (Bytes.ofString "B") ⟨"b", .text, [0x68, 0x69]⟩),
        .frame [Bytes.hyphen], .fail "connection reset"] 1).result =
      .error (.streamRead message) := by
  have writable : ∀ q ∈ ([⟨"a", .text, [0x2D, 0x0D]⟩] ++ [⟨"b", .text, [0x68, 0x69]⟩] : List Part),
      q.Writable (Bytes.ofString "B") := by
    intro q member
    simp only [List.cons_append, List.nil_append, List.mem_cons, List.not_mem_nil, or_false]
      at member
    rcases member with rfl | rfl
    · exact ⟨⟨by decide, List.all_eq_true.mp (by decide)⟩, nofun, nofun,
        Bytes.cut?_eq_none_iff.mp (by decide)⟩
    · exact ⟨⟨by decide, List.all_eq_true.mp (by decide)⟩, nofun, nofun,
        Bytes.cut?_eq_none_iff.mp (by decide)⟩
  refine ingest_streamRead_of_lost (d := ⟨.absent, "b", 4, 4⟩)
    ⟨by decide, List.all_eq_true.mp (by decide)⟩ (FormData.first?_announcement "B" []) writable rfl
    ?_ ⟨rfl, by decide⟩ ?_ ?_
  · intro q member
    obtain rfl := List.mem_singleton.mp member
    exact ⟨by decide, by decide⟩
  · simp [Body.arriving, FormData.encode, FormData.closingDelimiter, FormData.delimiter]
  · simp [Body.arriving, FormData.delimiter]

end Intake.UploadDescriptor
