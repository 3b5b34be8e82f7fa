import Intake.Proofs.Save.Events
import Intake.Proofs.Upload.Endings
import Intake.Upload.Saving

/-!
# What is logged of uploads

An upload that is given up for its size, or because its stream breaks off, is warned of once, with
the name of its field. There is one exception: an upload that is given up for another part of the
form (`Upload.GivenUpForOther`) ends without a warning. An upload that is received is told of once,
with its size, and a save tells either that it failed, behind everything else, or how much it
stored.

* `UploadDescriptor.Ends.silent`, `Ends.warned`: which ways to end are warned of.
* `Upload.aborts_logged`: what is logged of every upload and of every save.
-/

namespace Intake

open FormData (Body Fault)

/-- A failure for which an upload is given up while it arrives. -/
def Failure.isAbort : Failure → Bool
  | payloadTooLarge .. | streamRead _ => true
  | _ => false

theorem Failure.isAbort_of_isTooLarge {failure : Failure} (large : failure.isTooLarge = true) :
    failure.isAbort = true := by
  cases failure with
  | payloadTooLarge => rfl
  | _ => cases large

/-! ## Ways to end -/

namespace UploadDescriptor

variable {d : UploadDescriptor} {obstructed overflows : Prop} {chunkSize : Nat}
  {t : Traced Artifact} {failure : Failure}

/-- A fault that breaks an upload off is warned of with the name of the field. -/
theorem noticeOfFault_of_abort {fault : Fault} (other : fault.isOfLength = false)
    (abort : (Failure.ofFault fault).isAbort = true) :
    ∃ warning, d.noticeOfFault fault = [warning] ∧
      warning.fields.lookup "field" = some (.text d.field) := by
  cases fault with
  | streamFailed | incompleteStream | incompleteField => exact ⟨_, rfl, rfl⟩
  | fieldTooLarge => cases other
  | _ => cases abort

/-- Nothing is warned of where another part is too long. -/
theorem Ends.silent (ends : d.Ends obstructed overflows chunkSize t) (long : obstructed) :
    warnings t.events = [] ∧
      ∃ name, t.result = .error (.ofFault (.fieldTooLarge name d.memoryCap)) := by
  cases ends with
  | skipped _ name failed quiet => exact ⟨quiet.unwarned, name, failed⟩
  | copied short => exact absurd long short
  | unreadable fits | unreserved fits | broken fits | missing fits | received fits =>
    exact absurd long fits.1

/-- Any other upload that is given up is warned of once, with the name of its field. -/
theorem Ends.warned (ends : d.Ends obstructed overflows chunkSize t) (short : ¬ obstructed)
    (failed : t.result = .error failure) (abort : failure.isAbort = true) :
    ∃ warning, warnings t.events = [warning] ∧
      warning.fields.lookup "field" = some (.text d.field) := by
  cases ends with
  | skipped long => exact absurd long short
  | copied _ _ received _ _ _ warned => exact ⟨_, warned, rfl⟩
  | broken _ fault other ended warned =>
    obtain rfl := Except.error.inj (ended.symm.trans failed)
    rw [warned]
    exact noticeOfFault_of_abort other abort
  | unreadable _ _ ended | unreserved _ _ ended | missing _ ended =>
    obtain rfl := Except.error.inj (ended.symm.trans failed)
    cases abort
  | received _ _ accepted => exact absurd (accepted.symm.trans failed) nofun

theorem Ends.quiet {artifact : Artifact} (ends : d.Ends obstructed overflows chunkSize t)
    (accepted : t.result = .ok artifact) : Quiet t.events := by
  cases ends with
  | received _ _ _ quiet => exact quiet
  | unreadable _ _ failed | skipped _ _ failed | unreserved _ _ failed | copied _ _ _ _ _ failed
  | broken _ _ _ failed | missing _ failed => exact absurd (accepted.symm.trans failed) nofun

end UploadDescriptor

/-! ## Uploads -/

namespace Upload

variable {headers : Headers} {body : Body} {baseDir : FilePath} {field : String}
  {settings : UploadSettings} {failure : Failure}

/-- An upload is given up for another part of the form, which is too long. -/
def GivenUpForOther (headers : Headers) (body : Body) (field : String)
    (settings : UploadSettings) : Prop :=
  ¬ headers.Overdeclares settings ∧ (descriptor headers field settings).ObstructedBy headers body

/-- An upload that is given up while it arrives is warned of once, with the name of its field, or
not at all if it is given up for another part. -/
theorem warned_of_abort [Memory]
    (failed : (receive headers body baseDir field settings).result = .error failure)
    (abort : failure.isAbort = true) :
    (¬ GivenUpForOther headers body field settings → ∃ warning,
      warnings (receive headers body baseDir field settings).events = [warning] ∧
        warning.fields.lookup "field" = some (.text field)) ∧
    (GivenUpForOther headers body field settings →
      warnings (receive headers body baseDir field settings).events = [] ∧
        ∃ name, failure = .ofFault (.fieldTooLarge name settings.memoryCap)) := by
  cases goes_receive headers body baseDir field settings with
  | unasked _ same =>
    rw [same] at failed
    obtain rfl := Except.error.inj failed
    cases abort
  | overdeclared _ excess n same =>
    rw [same]
    exact ⟨fun _ => ⟨_, rfl, rfl⟩, fun other => absurd excess other.1⟩
  | failed _ within early quiet read ends fault ended same =>
    rw [same] at failed ⊢
    obtain rfl := Except.error.inj failed
    dsimp only
    rw [quiet.warnings_append]
    refine ⟨fun other => ends.warned (fun long => other ⟨within, long⟩) ended abort,
      fun other => ?_⟩
    obtain ⟨silent, name, given⟩ := ends.silent other.2
    exact ⟨silent, name, Except.error.inj (ended.symm.trans given)⟩
  | received _ _ _ _ _ _ artifact _ same =>
    rw [same] at failed
    cases failed

/-- Of an upload that is received no more is told than that. -/
theorem events_of_receive [Memory] {upload : Upload}
    (received : (receive headers body baseDir field settings).result = .ok upload) :
    warnings (receive headers body baseDir field settings).events = [] ∧
      tidings (receive headers body baseDir field settings).events =
        [receivedNotice field upload.artifact] := by
  cases goes_receive headers body baseDir field settings with
  | unasked _ same | overdeclared _ _ _ same | failed _ _ _ _ _ _ _ _ same =>
    rw [same] at received
    cases received
  | received _ _ early quiet read ends artifact ended same =>
    rw [same] at received ⊢
    obtain rfl := Except.ok.inj received
    have still := ends.quiet ended
    dsimp only
    rw [quiet.warnings_append, quiet.tidings_append, still.warnings_append, still.tidings_append]
    exact ⟨rfl, rfl⟩

/-! ## Saves -/

/-- What is logged of an upload that is not saved. -/
def failedSaveEvent (u : Upload) (failure : Failure) : Event where
  level := .error
  message := "Failed to save upload"
  fields := [("error", .text failure.message), ("filename", .text u.artifact.filename)]

/-- A save fails and tells so at the end, leaving the file system as it was; or it creates and
writes its file, and tells so at the end. -/
theorem saveTo_cases (u : Upload) (fs : FileSystem) (destination : Destination)
    (broken : Option BrokenWrite) :
    (∃ failure before, u.saveTo fs destination broken =
        (fs, ⟨before ++ [u.failedSaveEvent failure], .error failure⟩) ∧ Untold before) ∨
    ∃ path before last place, u.saveTo fs destination broken =
        (last, ⟨before ++ [savedEvent u.artifact path], .ok path⟩) ∧
      (∀ event ∈ before, event.level = .debug) ∧
      last.resolve path = .ok (place, .file u.artifact.bytes) := by
  unfold saveTo
  cases u.locate destination with
  | error failure => exact .inl ⟨failure, [], rfl, List.forall_mem_nil _⟩
  | ok path =>
    dsimp only
    obtain ⟨failure, events, failed, untold⟩ | ⟨last, events, saved, debug⟩ :=
      persist_cases fs u.artifact path broken
    · rw [failed]
      exact .inl ⟨failure, events, rfl, untold⟩
    · obtain ⟨place, found⟩ := resolve_persist (congrArg (·.2.result) saved)
      rw [saved] at found ⊢
      refine .inr ⟨path, events, last, place, ?_, debug, found⟩
      rw [Traced.bind_of_ok rfl]
      simp only [Traced.noting, pure, saveNotice, List.append_nil]

/-- A save whose create succeeds ends as its write does. -/
theorem result_saveTo_of_created {u : Upload} {fs created : FileSystem} {destination : Destination}
    {path : FilePath} {place : Location} (located : u.locate destination = .ok path)
    (create : fs.createNew path = .ok (created, place)) (broken : Option BrokenWrite) :
    (u.saveTo fs destination broken).2.result =
      match broken with
      | none => .ok path
      | some write => .error (.io path write.fault) := by
  unfold saveTo
  rw [located]
  dsimp only [Traced.noting]
  cases broken with
  | none => rw [Traced.bind_of_ok (persist_of_created create).2]; rfl
  | some write => rw [Traced.bind_of_error (persist_of_broken create write).2]

/-! ## All events -/

/-- What is logged of every upload, and of every save.

If an upload is given up for its size or because its stream breaks off, there is one warning and it
names the wanted field; apart from this is the warning that the declared length is no number. But if
it is given up for another part of the form, which is too long, there is none. If an upload is
received there is no such warning, and one event tells of it with its size.

If a save fails, even where its write breaks off, the last event and no other one tells so, as an
error and with the failure's message. If it succeeds there is no error, and one event tells of it
with the length of the file that is found under its path. -/
theorem aborts_logged [Memory] (headers : Headers) (body : Body) (baseDir : FilePath)
    (field : String) (settings : UploadSettings) :
    let t := receive headers body baseDir field settings
    (∀ failure, t.result = .error failure → failure.isAbort = true →
      (¬ GivenUpForOther headers body field settings → ∃ warning,
        warnings t.events = [warning] ∧ warning.fields.lookup "field" = some (.text field)) ∧
      (GivenUpForOther headers body field settings → warnings t.events = [] ∧
        ∃ name, failure = .ofFault (.fieldTooLarge name settings.memoryCap))) ∧
    (∀ upload, t.result = .ok upload → warnings t.events = [] ∧
      ∃ event, tidings t.events = [event] ∧ event.message = "Upload received" ∧
        event.fields.lookup "bytes" = some (.count upload.artifact.size)) ∧
    ∀ (upload : Upload) (fs : FileSystem) (destination : Destination)
      (broken : Option BrokenWrite),
      let saved := upload.saveTo fs destination broken
      (∀ failure, saved.2.result = .error failure → ∃ before event,
        saved.2.events = before ++ [event] ∧ event.level = .error ∧
        event.message = "Failed to save upload" ∧
        event.fields.lookup "error" = some (.text failure.message) ∧ Untold before) ∧
      (∀ path, saved.2.result = .ok path → (∀ event ∈ saved.2.events, event.level ≠ .error) ∧
        ∃ place content event, saved.1.resolve path = .ok (place, .file content) ∧
          tidings saved.2.events = [event] ∧ event.message = "Upload saved" ∧
          event.fields.lookup "bytes" = some (.count content.length)) := by
  refine ⟨fun failure failed abort => warned_of_abort failed abort, fun upload received => ?_,
    fun upload fs destination broken => ?_⟩
  · obtain ⟨quiet, told⟩ := events_of_receive received
    exact ⟨quiet, _, told, rfl, rfl⟩
  · obtain ⟨failure, before, failed, untold⟩ | ⟨path, before, last, place, saved, debug, found⟩ :=
      upload.saveTo_cases fs destination broken
    · rw [failed]
      refine ⟨?_, nofun⟩
      rintro _ ⟨⟩
      exact ⟨before, _, rfl, rfl, rfl, rfl, untold⟩
    · rw [saved]
      refine ⟨nofun, ?_⟩
      rintro _ ⟨⟩
      refine ⟨List.forall_mem_append.mpr ⟨fun event member => ?_, ?_⟩, place, _,
        savedEvent upload.artifact path, found, ?_, rfl, rfl⟩
      · rw [debug event member]
        decide
      · exact List.forall_mem_singleton.mpr (by simp [savedEvent])
      · rw [(quiet_of_debug debug).tidings_append]
        rfl

/-- What is logged of an upload that declares too much, of one that is received, and of saves of it:
one where the file system has no room left for it, and a whole one. -/
theorem aborts_logged_of_twoOctets :
    (∃ warning, warnings (receive [FormData.announcement "B",
        ("content-length", Bytes.ofString "60")] [] ⟨[Bytes.dot]⟩ "a" ⟨1, 1, 1, 20⟩).events =
          [warning] ∧
      warning.fields.lookup "field" = some (.text "a")) ∧
    (∃ event, tidings (receive [FormData.announcement "B"]
        [.frame (FormData.encode (Bytes.ofString "B") [twoOctets])] ⟨[Bytes.dot]⟩ "a"
          ⟨2, 2, 1, 20⟩).events = [event] ∧
      event.fields.lookup "bytes" = some (.count 2)) ∧
    (∃ before event, (saveTo ⟨twoOctets.received, .ofString "//"⟩ .empty (.renamed "x")
        (some ⟨[0x68], .other "no room"⟩)).2.events = before ++ [event] ∧
      event.fields.lookup "error" = some (.text "I/O error on //x: no room")) ∧
    ∃ place content event, (saveTo ⟨twoOctets.received, .ofString "//"⟩ .empty
          (.renamed "x")).1.resolve (.ofString "//x") = .ok (place, .file content) ∧
      tidings (saveTo ⟨twoOctets.received, .ofString "//"⟩ .empty
        (.renamed "x")).2.events = [event] ∧
      event.fields.lookup "bytes" = some (.count content.length) := by
  have located : locate ⟨twoOctets.received, .ofString "//"⟩ (.renamed "x") =
      .ok (.ofString "//x") := by rfl
  have created : FileSystem.empty.createNew (.ofString "//x") = .ok (_, [[0x78]]) :=
    FileSystem.createNew_of_single (by decide) (by decide) (by decide) (by decide) (by decide) rfl
  refine ⟨?_, ?_, ?_, ?_⟩
  · let headers : Headers := [FormData.announcement "B", ("content-length", Bytes.ofString "60")]
    have excess : headers.Overdeclares ⟨1, 1, 1, 20⟩ := overdeclares_sixty (by decide)
    obtain ⟨failure, failed, large⟩ :=
      (receive_isTooLarge_iff headers [] ⟨[Bytes.dot]⟩ "a" _).mpr ⟨by decide, .declared excess⟩
    have warned := (aborts_logged headers [] ⟨[Bytes.dot]⟩ "a" ⟨1, 1, 1, 20⟩).1 failure failed
      (Failure.isAbort_of_isTooLarge large)
    exact warned.1 fun other => other.1 excess
  · have received := receive_twoOctets [] ⟨[Bytes.dot]⟩ 20 (not_overdeclares_announcement _)
    obtain ⟨-, event, told, -, bytes⟩ := (aborts_logged _ _ _ _ _).2.1 _ received
    exact ⟨event, told, bytes⟩
  · have failed := result_saveTo_of_created located created (some ⟨[0x68], .other "no room"⟩)
    obtain ⟨before, event, events, -, -, told, -⟩ :=
      ((aborts_logged [] [] ⟨[]⟩ "" ⟨0, 0, 0, 0⟩).2.2 _ _ _ _).1 _ failed
    have words : Failure.message (.io (.ofString "//x") (.other "no room")) =
        "I/O error on //x: no room" := by decide +kernel
    exact ⟨before, event, events, words ▸ told⟩
  · have saved := result_saveTo_of_created located created none
    obtain ⟨-, place, content, event, found, told, -, bytes⟩ :=
      ((aborts_logged [] [] ⟨[]⟩ "" ⟨0, 0, 0, 0⟩).2.2 _ _ _ _).2 _ saved
    exact ⟨place, content, event, found, told, bytes⟩

/-- An upload that is given up because another field is too long ends without any warning. -/
theorem silent_of_long_other :
    let t := receive [FormData.announcement "B"] [.frame (FormData.encode (Bytes.ofString "B")
      [twoOctets, ⟨"b", .text, [0x78]⟩])] ⟨[Bytes.dot]⟩ "b"
      { UploadSettings.default with memoryCap := 1 }
    ∃ failure, t.result = .error failure ∧ failure.isTooLarge = true ∧
      ¬ ∃ warning, warnings t.events = [warning] := by
  intro t
  let parts : List FormData.Part := [twoOctets, ⟨"b", .text, [0x78]⟩]
  have announced := FormData.boundary_of_announcement announceable_letter
    (FormData.first?_announcement "B" [])
  have writable : ∀ p ∈ parts, p.Writable (Bytes.ofString "B") := by
    refine List.forall_mem_cons.mpr ⟨writable_twoOctets, List.forall_mem_singleton.mpr ?_⟩
    exact ⟨⟨by decide, List.all_eq_true.mp (by decide)⟩, nofun, nofun,
      Bytes.cut?_eq_none_iff.mp (by decide)⟩
  have carries := FormData.carries_read announceable_letter.cr_not_mem_delimiter writable
    (.atOnce (Bytes.ofString "B") _)
  have other : GivenUpForOther [FormData.announcement "B"]
      [.frame (FormData.encode (Bytes.ofString "B") parts)] "b"
      { UploadSettings.default with memoryCap := 1 } :=
    ⟨not_overdeclares_announcement _,
      (UploadDescriptor.obstructedBy_iff_of_carries announced carries).mpr
        ⟨twoOctets, by decide, by decide⟩⟩
  obtain ⟨failure, failed, large⟩ := (receive_isTooLarge_iff _ _ ⟨[Bytes.dot]⟩ "b" _).mpr
    ⟨by decide, .skipped other.1 other.2⟩
  obtain ⟨silent, -⟩ := (warned_of_abort failed (Failure.isAbort_of_isTooLarge large)).2 other
  refine ⟨failure, failed, large, ?_⟩
  rintro ⟨warning, warned⟩
  cases silent.symm.trans warned

end Upload

end Intake
