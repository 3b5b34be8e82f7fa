import Intake.Proofs.Text.Numeral
import Intake.Proofs.Text.Utf8
import Intake.Proofs.Upload.Arrival

/-!
# What a declared length decides

A declared length can have an upload refused before its body is read, when it is larger than the
limit and the allowance for framing together. Beyond that it decides nothing: the upload comes to
what it comes to without the declaration.

* `receive_of_declared`: when the early check refuses an upload, and that it is received as
  without a declared length otherwise.
* `receive_of_exact_length`: an upload that declares its length truthfully is received as without
  the declaration just if that length is within the limit and the allowance. The allowance is a
  guess at the framing, so that a field within the limit can be refused for its framing
  (`receive_of_exact_length_overframed`).
-/

namespace Intake

/-! ## Headers without those of a name -/

namespace Headers

theorem first?_without_self (headers : Headers) (name : String) :
    (headers.without name).first? name = none := by
  rw [first?, Option.map_eq_none_iff, List.find?_eq_none]
  intro field member found
  have kept := (List.mem_filter.mp member).2
  rw [found] at kept
  cases kept

theorem first?_without_of_ne {name other : String} (differs : other ≠ name) (headers : Headers) :
    (headers.without name).first? other = headers.first? other := by
  have same : ∀ field : String × Bytes,
      decide ((!named name field) = true ∧ named other field = true) = named other field := by
    intro field
    cases found : named other field with
    | false => simp
    | true =>
      have is : field.1.toLower = other := beq_iff_eq.mp found
      simp [named, is, differs]
  rw [first?, first?, without, List.find?_filter]
  exact congrArg (Option.map Prod.snd) (congrArg headers.find? (funext same))

/-- The first length header can be read as a number that is above the limit and the allowance for
framing together. -/
def Overdeclares (headers : Headers) (settings : UploadSettings) : Prop :=
  ∃ value n, headers.first? "content-length" = some value ∧
    Text.readNumeral (Text.trim (Utf8.decodeLossy value)) = .ok n ∧ n < Word.limit ∧
    settings.limit + settings.framingOverhead < n

end Headers

namespace DeclaredLength

/-- A length is known if the first length header can be read as a number. -/
theorem ofHeaders_eq_known_iff {headers : Headers} {n : Nat} :
    ofHeaders headers = .known n ↔ ∃ value, headers.first? "content-length" = some value ∧
      Text.readNumeral (Text.trim (Utf8.decodeLossy value)) = .ok n := by
  unfold ofHeaders
  cases headers.first? "content-length" with
  | none => simp
  | some value =>
    unfold ofValue
    cases read : Text.readNumeral (Text.trim (Utf8.decodeLossy value)) <;> simp [read]

theorem bytes?_eq_some_iff {declared : DeclaredLength} {n : Nat} :
    declared.bytes? = some n ↔ declared = .known n := by
  cases declared <;> simp [bytes?]

end DeclaredLength

namespace UploadDescriptor

variable {d : UploadDescriptor} {framingOverhead chunkSize : Nat}

/-! ## The early check -/

/-- The early check passes an upload that declares no length above the limit and the allowance
together. -/
theorem precheck_of_within
    (within : ∀ n, d.declared = .known n → n ≤ d.limit + framingOverhead) :
    (d.precheck framingOverhead).result = .ok () := by
  unfold precheck
  cases known : d.declared.bytes? with
  | none => rfl
  | some n =>
    have bound := within n (DeclaredLength.bytes?_eq_some_iff.mp known)
    dsimp only
    rw [if_neg (by omega)]
    rfl

/-- The early check refuses an upload that declares a length above the limit and the allowance
together. -/
theorem precheck_of_beyond {n : Nat} (known : d.declared = .known n)
    (beyond : d.limit + framingOverhead < n) :
    ∃ message, (d.precheck framingOverhead).result =
      .error (.payloadTooLarge .precheck message) := by
  unfold precheck
  rw [DeclaredLength.bytes?_eq_some_iff.mpr known]
  dsimp only
  rw [if_pos (by omega)]
  exact ⟨_, rfl⟩

/-- The early check passes an upload just if it declares no length above the limit and the
allowance together. -/
theorem precheck_eq_ok_iff :
    (d.precheck framingOverhead).result = .ok () ↔
      ∀ n, d.declared = .known n → n ≤ d.limit + framingOverhead := by
  refine ⟨fun passed n known => Nat.not_lt.mp fun beyond => ?_, precheck_of_within⟩
  obtain ⟨message, refused⟩ := precheck_of_beyond known beyond
  rw [refused] at passed
  cases passed

/-! ## Reading the body -/

/-- Reading a form does not look at the declared length. -/
theorem receiveField_declared [Memory] (declared : DeclaredLength) (form : FormData.Form) :
    { d with declared }.receiveField chunkSize form = d.receiveField chunkSize form := by
  induction form with
  | closed => rfl
  | fault f => rfl
  | broken head frames f => rfl
  | part head frames rest ih =>
    rw [receiveField, receiveField, ih]
    rfl

theorem abort_ne_precheck (fault : FormData.Fault) (message : String) :
    (d.abort fault : Traced Artifact).result ≠ .error (.payloadTooLarge .precheck message) := by
  intro same
  have failure : Failure.ofFault fault = .payloadTooLarge .precheck message :=
    Except.error.inj same
  cases fault <;> cases failure

theorem receivePart_ne_precheck [Memory] (head : FormData.PartHead) (frames : List Bytes)
    (ending : Option FormData.Fault) (message : String) :
    (d.receivePart chunkSize head frames ending).result ≠
      .error (.payloadTooLarge .precheck message) := by
  unfold receivePart
  split
  · exact nofun
  · unfold copy
    rw [Traced.bind_of_ok rfl]
    dsimp only
    split
    · exact nofun
    · split
      · apply abort_ne_precheck
      · exact nofun

/-- Reading a form never fails as the early check does. -/
theorem receiveField_ne_precheck [Memory] (form : FormData.Form) (message : String) :
    (d.receiveField chunkSize form).result ≠ .error (.payloadTooLarge .precheck message) := by
  induction form with
  | closed => exact nofun
  | fault f => exact abort_ne_precheck f message
  | part head frames rest ih =>
    rw [receiveField]
    split
    · apply receivePart_ne_precheck
    · split
      · apply abort_ne_precheck
      · exact ih
  | broken head frames f =>
    rw [receiveField]
    split
    · apply receivePart_ne_precheck
    · split
      · apply abort_ne_precheck
      · exact abort_ne_precheck f message

theorem ingest_ne_precheck [Memory] (headers : Headers) (body : FormData.Body) (message : String) :
    (d.ingest headers body chunkSize).result ≠ .error (.payloadTooLarge .precheck message) := by
  unfold ingest
  split
  · exact nofun
  · exact receiveField_ne_precheck _ message

/-- A body is read alike whatever length is declared for it. -/
theorem ingest_without_length [Memory] (d : UploadDescriptor) (declared : DeclaredLength)
    (headers : Headers) (body : FormData.Body) (chunkSize : Nat) :
    { d with declared }.ingest (headers.without "content-length") body chunkSize =
      d.ingest headers body chunkSize := by
  have announced : FormData.boundary (headers.without "content-length") =
      FormData.boundary headers := by
    unfold FormData.boundary
    rw [Headers.first?_without_of_ne (by decide)]
  rw [ingest, ingest, announced]
  cases FormData.boundary headers with
  | error fault => rfl
  | ok boundary => exact receiveField_declared declared _

end UploadDescriptor

/-! ## Uploads -/

namespace Upload

variable {headers : Headers} {body : FormData.Body} {baseDir : FilePath} {field : String}
  {settings : UploadSettings}

/-- An upload that declares too much is refused, whatever arrives. -/
theorem receive_of_overdeclares [Memory] (named : field ≠ "")
    (excess : headers.Overdeclares settings) :
    ∃ message, ∀ (body : FormData.Body) (baseDir : FilePath),
      (receive headers body baseDir field settings).result =
        .error (.payloadTooLarge .precheck message) := by
  rcases excess with ⟨value, n, first, read, -, beyond⟩
  have known : DeclaredLength.ofHeaders headers = .known n :=
    DeclaredLength.ofHeaders_eq_known_iff.mpr ⟨value, first, read⟩
  rcases UploadDescriptor.precheck_of_beyond
    (d := .ofSettings (.ofHeaders headers) field settings) known beyond with ⟨message, refused⟩
  exact ⟨message, fun _ _ => receive_of_refused named refused⟩

/-- An upload that does not declare too much comes to what its body is read as when nothing is
declared. -/
theorem receive_of_not_overdeclares [Memory] (named : field ≠ "")
    (within : ¬ headers.Overdeclares settings) :
    (receive headers body baseDir field settings).result =
      ((UploadDescriptor.ofSettings .absent field settings).ingest
        (headers.without "content-length") body settings.chunkSize).result.map
        fun artifact => { artifact, baseDir } := by
  have checked : ((UploadDescriptor.ofSettings (.ofHeaders headers) field settings).precheck
      settings.framingOverhead).result = .ok () := by
    refine UploadDescriptor.precheck_of_within fun n known => Nat.not_lt.mp fun beyond => ?_
    rcases DeclaredLength.ofHeaders_eq_known_iff.mp known with ⟨value, first, read⟩
    have small := Text.readNumeral_lt read
    exact within ⟨value, n, first, read, small, beyond⟩
  have read := UploadDescriptor.ingest_without_length
    (.ofSettings (.ofHeaders headers) field settings) .absent headers body settings.chunkSize
  rw [receive_of_checked named checked, ← read]
  rfl

theorem not_overdeclares_without (headers : Headers) (settings : UploadSettings) :
    ¬ (headers.without "content-length").Overdeclares settings := by
  rintro ⟨value, n, first, -⟩
  rw [headers.first?_without_self] at first
  cases first

/-- An upload that does not declare too much comes to what it comes to without length headers. -/
theorem receive_eq_without_length [Memory] (named : field ≠ "")
    (within : ¬ headers.Overdeclares settings) :
    (receive headers body baseDir field settings).result =
      (receive (headers.without "content-length") body baseDir field settings).result := by
  have absent := not_overdeclares_without headers settings
  rw [receive_of_not_overdeclares named within, receive_of_not_overdeclares named absent]
  have read := UploadDescriptor.ingest_without_length (.ofSettings .absent field settings) .absent
    (headers.without "content-length") body settings.chunkSize
  rw [← read]
  rfl

/-- The early check refuses an upload just if the first length header is a number above the limit
and the allowance for framing together, and then whatever arrives. Any other upload comes to what
it comes to without length headers, and one without a field's name is refused in any case. -/
theorem receive_of_declared [Memory] (headers : Headers) (body : FormData.Body) (baseDir : FilePath)
    (settings : UploadSettings) {field : String} (named : field ≠ "") :
    ((∃ message, (receive headers body baseDir field settings).result =
        .error (.payloadTooLarge .precheck message)) ↔ headers.Overdeclares settings) ∧
    (headers.Overdeclares settings → ∃ message, ∀ (body : FormData.Body) (baseDir : FilePath),
      (receive headers body baseDir field settings).result =
        .error (.payloadTooLarge .precheck message)) ∧
    (¬ headers.Overdeclares settings → (receive headers body baseDir field settings).result =
      (receive (headers.without "content-length") body baseDir field settings).result) ∧
    (receive headers body baseDir "" settings).result =
      .error (.badRequest "form field name expected") := by
  refine ⟨⟨?_, ?_⟩, receive_of_overdeclares named, receive_eq_without_length named, rfl⟩
  · rintro ⟨message, refused⟩
    apply Classical.byContradiction
    intro within
    rw [receive_of_not_overdeclares named within] at refused
    cases read : ((UploadDescriptor.ofSettings .absent field settings).ingest
        (headers.without "content-length") body settings.chunkSize).result with
    | ok artifact => rw [read] at refused; cases refused
    | error failure =>
      rw [read] at refused
      cases refused
      exact UploadDescriptor.ingest_ne_precheck _ _ _ read
  · intro excess
    rcases receive_of_overdeclares named excess with ⟨message, refused⟩
    exact ⟨message, refused body baseDir⟩

/-- A padded length that is one above the limit and the allowance has an upload refused, whatever
a second length says and whatever arrives. -/
theorem receive_of_declared_padded :
    "a" ≠ "" ∧ ∃ message, ∀ (body : FormData.Body) (baseDir : FilePath),
      (receive [("Content-Length", Bytes.ofString " +0023 "),
        ("content-length", Bytes.ofString "1")] body baseDir "a" ⟨2, 2, 1, 20⟩).result =
        .error (.payloadTooLarge .precheck message) := by
  refine ⟨by decide, ?_⟩
  have excess : Headers.Overdeclares [("Content-Length", Bytes.ofString " +0023 "),
      ("content-length", Bytes.ofString "1")] ⟨2, 2, 1, 20⟩ := by
    refine ⟨Bytes.ofString " +0023 ", 23, by decide +kernel, ?_, by decide, by decide⟩
    rw [Utf8.decodeLossy_ofString]
    rfl
  exact (receive_of_declared _ [] ⟨[]⟩ ⟨2, 2, 1, 20⟩ (by decide)).2.1 excess

/-! ## Truthful declarations -/

/-- A length that is written in decimal is too much if it is above the limit and the allowance
together, and can be told at all. -/
theorem overdeclares_iff_of_decimal {n : Nat}
    (declared : headers.first? "content-length" = some (Bytes.ofString (toString n))) :
    headers.Overdeclares settings ↔
      n < Word.limit ∧ settings.limit + settings.framingOverhead < n := by
  have read {m : Nat} : Text.readNumeral (Text.trim (Utf8.decodeLossy
      (Bytes.ofString (toString n)))) = .ok m ↔ n = m ∧ m < Word.limit := by
    rw [Utf8.decodeLossy_ofString, Text.trim_toString, Text.readNumeral_toString_eq_ok_iff]
  constructor
  · rintro ⟨value, m, first, stands, small, beyond⟩
    rw [declared, Option.some.injEq] at first
    rw [← first, read] at stands
    rw [stands.1]
    exact ⟨small, beyond⟩
  · rintro ⟨small, beyond⟩
    exact ⟨_, n, declared, read.mpr ⟨rfl, small⟩, small, beyond⟩

/-- A form of one part is received under that part's name, if the part is within the limit and the
form does not declare too much. -/
theorem receive_single [Memory] {boundary : String} {p : FormData.Part} {buffer : BoundedBuffer}
    (announceable : FormData.Announceable boundary)
    (announced : headers.first? "content-type" = some (FormData.announcement boundary).2)
    (writable : p.Writable (Bytes.ofString boundary))
    (carried : body.CarriesParts (Bytes.ofString boundary) [p])
    (reserved : BoundedBuffer.reserve settings.limit = .ok buffer)
    (fits : p.content.length ≤ settings.limit) (within : ¬ headers.Overdeclares settings) :
    (receive headers body baseDir p.name settings).result = .ok ⟨p.received, baseDir⟩ := by
  have boundary_ : FormData.boundary (headers.without "content-length") =
      .ok (Bytes.ofString boundary) := by
    apply FormData.boundary_of_announcement announceable
    rw [Headers.first?_without_of_ne (by decide), announced]
  have all : ∀ q ∈ [p], q.Writable (Bytes.ofString boundary) := by
    intro q member
    obtain rfl := List.mem_singleton.mp member
    exact writable
  have carries := FormData.carries_read announceable.cr_not_mem_delimiter all carried
  have receives := UploadDescriptor.receives_of_carries
    (d := .ofSettings .absent p.name settings) settings.chunkSize reserved carries
  have read : ((UploadDescriptor.ofSettings .absent p.name settings).receiveField
      settings.chunkSize (.read (Bytes.ofString boundary) body)).result = .ok p.received := by
    simpa [UploadDescriptor.Receives, UploadDescriptor.skipped, UploadDescriptor.wanted?,
      UploadDescriptor.ReceivesPart, UploadDescriptor.ofSettings, fits] using receives
  rw [receive_of_not_overdeclares writable.name.1 within, UploadDescriptor.ingest, boundary_]
  dsimp only
  rw [read]
  rfl

/-- A field that holds two octets. -/
def twoOctets : FormData.Part where
  name := "a"
  kind := .text
  content := [0x68, 0x69]

theorem writable_twoOctets : twoOctets.Writable (Bytes.ofString "B") :=
  ⟨⟨by decide, List.all_eq_true.mp (by decide)⟩, nofun, nofun,
    Bytes.cut?_eq_none_iff.mp (by decide)⟩

theorem announceable_letter : FormData.Announceable "B" :=
  ⟨by decide, List.all_eq_true.mp (by decide)⟩

theorem not_overdeclares_announcement (settings : UploadSettings) :
    ¬ Headers.Overdeclares [FormData.announcement "B"] settings := by
  have undeclared : Headers.without [FormData.announcement "B"] "content-length" =
      [FormData.announcement "B"] := by decide +kernel
  exact undeclared ▸ not_overdeclares_without _ _

theorem overdeclares_sixty (beyond : settings.limit + settings.framingOverhead < 60) :
    Headers.Overdeclares [FormData.announcement "B", ("content-length", Bytes.ofString "60")]
      settings := by
  have declared : Headers.first?
      [FormData.announcement "B", ("content-length", Bytes.ofString "60")] "content-length" =
      some (Bytes.ofString (toString 60)) := by decide +kernel
  exact (overdeclares_iff_of_decimal declared).mpr ⟨by decide, beyond⟩

/-- A form of these two octets is received under a limit that they fill, unless too much is
declared. -/
theorem receive_twoOctets (more : Headers) (baseDir : FilePath) (overhead : Nat)
    (within : ¬ Headers.Overdeclares (FormData.announcement "B" :: more) ⟨2, 2, 1, overhead⟩) :
    (receive (FormData.announcement "B" :: more)
      [.frame (FormData.encode (Bytes.ofString "B") [twoOctets])] baseDir "a"
      ⟨2, 2, 1, overhead⟩).result = .ok ⟨twoOctets.received, baseDir⟩ :=
  receive_single (p := twoOctets) ⟨by decide, List.all_eq_true.mp (by decide)⟩
    (FormData.first?_announcement "B" more) writable_twoOctets (.atOnce _ _) rfl (Nat.le_refl 2)
    within

/-- An upload that is received without a declared length is received just the same when its exact
length is declared, if that is within the limit and the allowance for framing together. If it is
above them, the upload is refused, although its field is within the limit. -/
theorem receive_of_exact_length [Memory] {boundary : Bytes} {parts : List FormData.Part}
    {upload : Upload}
    (carried : body.octets = FormData.encode boundary parts)
    (declared : headers.first? "content-length" =
      some (Bytes.ofString (toString body.octets.length)))
    (received : (receive (headers.without "content-length") body baseDir field settings).result =
      .ok upload) :
    ((FormData.encode boundary parts).length ≤ settings.limit + settings.framingOverhead →
      (receive headers body baseDir field settings).result = .ok upload) ∧
    ((FormData.encode boundary parts).length < Word.limit →
      settings.limit + settings.framingOverhead < (FormData.encode boundary parts).length →
        upload.artifact.size ≤ settings.limit ∧
        ∃ message, (receive headers body baseDir field settings).result =
          .error (.payloadTooLarge .precheck message)) := by
  rw [carried] at declared
  have named := (receive_eq_ok_iff.mp received).1
  constructor
  · intro fits
    have within : ¬ headers.Overdeclares settings := by
      rw [overdeclares_iff_of_decimal declared]
      omega
    rw [receive_eq_without_length named within, received]
  · intro small beyond
    rcases receive_of_overdeclares named
      ((overdeclares_iff_of_decimal declared).mpr ⟨small, beyond⟩) with ⟨message, refused⟩
    exact ⟨size_le_of_receive received, message, refused body baseDir⟩

/-- A form whose length is just the limit and the allowance together is received. -/
theorem receive_of_exact_length_brimful :
    (receive [FormData.announcement "B", ("content-length", Bytes.ofString "60")]
      [.frame (FormData.encode (Bytes.ofString "B") [twoOctets])] ⟨[Bytes.dot]⟩ "a"
      ⟨2, 2, 1, 58⟩).result = .ok ⟨twoOctets.received, ⟨[Bytes.dot]⟩⟩ := by
  have others : Headers.without
      [FormData.announcement "B", ("content-length", Bytes.ofString "60")] "content-length" =
      [FormData.announcement "B"] := by decide +kernel
  have received := receive_twoOctets [] ⟨[Bytes.dot]⟩ 58 (others ▸ not_overdeclares_without _ _)
  have carried : FormData.Body.octets
      [.frame (FormData.encode (Bytes.ofString "B") [twoOctets])] =
      FormData.encode (Bytes.ofString "B") [twoOctets] := List.append_nil _
  refine (receive_of_exact_length carried ?_ ?_).1 ?_
  · decide +kernel
  · rw [others, received]
  · decide

/-- A form whose field fills the limit is received when no length is declared, and refused when
its exact length is. -/
theorem receive_of_exact_length_overframed :
    (receive [FormData.announcement "B"]
      [.frame (FormData.encode (Bytes.ofString "B") [twoOctets])] ⟨[Bytes.dot]⟩ "a"
      ⟨2, 2, 1, 20⟩).result = .ok ⟨twoOctets.received, ⟨[Bytes.dot]⟩⟩ ∧
    (FormData.encode (Bytes.ofString "B") [twoOctets]).length = 60 ∧
    ∃ message, (receive [FormData.announcement "B", ("content-length", Bytes.ofString "60")]
      [.frame (FormData.encode (Bytes.ofString "B") [twoOctets])] ⟨[Bytes.dot]⟩ "a"
      ⟨2, 2, 1, 20⟩).result = .error (.payloadTooLarge .precheck message) := by
  have declared : Headers.first?
      [FormData.announcement "B", ("content-length", Bytes.ofString "60")] "content-length" =
      some (Bytes.ofString (toString 60)) := by decide +kernel
  have excess : Headers.Overdeclares
      [FormData.announcement "B", ("content-length", Bytes.ofString "60")] ⟨2, 2, 1, 20⟩ :=
    (overdeclares_iff_of_decimal declared).mpr ⟨by decide, by decide⟩
  have named : "a" ≠ "" := by decide
  rcases receive_of_overdeclares named excess with ⟨message, refused⟩
  exact ⟨receive_twoOctets [] _ 20 (not_overdeclares_announcement _), by decide, message,
    refused _ _⟩

end Upload

end Intake
