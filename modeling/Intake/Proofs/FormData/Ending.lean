import Intake.Proofs.FormData.Truncation

/-!
# The parts of a form, and how it ends

A form that was read is its parts, as far as their data came (`Form.parts`), and the fault that it
ends with, if it does not end in good order (`Form.fault?`). Readers give a form up for its octets
or for the stream that brings them, and never for the length of a part: that is left to whoever takes
the parts in (`isOfLength_fault?_read`).
-/

namespace Intake.FormData

/-! ## Parts and endings -/

namespace Form

/-- The parts of a form with the data of them that came; those of the last one may break off. -/
def parts : Form → List (PartHead × List Bytes)
  | closed => []
  | fault _ => []
  | part head pieces rest => (head, pieces) :: rest.parts
  | broken head pieces _ => [(head, pieces)]

/-- The fault that a form ends with. -/
def fault? : Form → Option Fault
  | closed => none
  | fault f => some f
  | part _ _ rest => rest.fault?
  | broken _ _ f => some f

end Form

/-! ## Faults of length -/

/-- Whether a fault is the length of a part. -/
def Fault.isOfLength : Fault → Bool
  | fieldTooLarge .. => true
  | _ => false

theorem Fault.BreaksOff.isOfLength {f : Fault} (breaks : f.BreaksOff) : f.isOfLength = false := by
  cases breaks <;> rfl

variable {f : Fault}

namespace HeaderBlock

variable {block : Bytes}

theorem isOfLength_afterLineEnd (failed : afterLineEnd block = .error f) :
    f.isOfLength = false := by
  unfold afterLineEnd at failed
  split at failed
  · exact Except.error.inj failed ▸ rfl
  · split at failed
    · cases failed
    · split at failed
      · split at failed
        · exact Except.error.inj failed ▸ rfl
        · split at failed
          · cases failed
          · exact Except.error.inj failed ▸ rfl
      · exact Except.error.inj failed ▸ rfl

theorem isOfLength_field (failed : field block = .error f) : f.isOfLength = false := by
  unfold field at failed
  dsimp only at failed
  split at failed
  · exact Except.error.inj failed ▸ rfl
  · split at failed
    · split at failed
      · next ended => exact Except.error.inj failed ▸ isOfLength_afterLineEnd ended
      · cases failed
    · exact Except.error.inj failed ▸ rfl

theorem isOfLength_fields {room : Nat} (failed : fields room block = .error f) :
    f.isOfLength = false := by
  fun_induction fields room block with
  | case1 => cases failed
  | case2 => exact Except.error.inj failed ▸ rfl
  | case3 => exact Except.error.inj failed ▸ rfl
  | case4 block _ _ _ room fault ended => exact Except.error.inj failed ▸ isOfLength_field ended
  | case5 block _ _ _ room line rest read ih =>
    cases more : fields room rest with
    | ok others => rw [more] at failed; cases failed
    | error fault =>
      rw [more] at failed
      exact ih (more.trans (congrArg Except.error (Except.error.inj failed)))

/-- A header block is given up for its octets. -/
theorem isOfLength_parse (failed : parse block = .error f) : f.isOfLength = false := by
  unfold parse at failed
  cases read : fields maxFields block with
  | error fault =>
    rw [read] at failed
    exact Except.error.inj failed ▸ isOfLength_fields read
  | ok headers =>
    rw [read] at failed
    change withinLength headers = _ at failed
    unfold withinLength at failed
    split at failed
    · exact Except.error.inj failed ▸ rfl
    · cases failed

end HeaderBlock

variable {delimiter buffer : Bytes}

theorem isOfLength_advanceHead (failed : advanceHead buffer = .fault f) :
    f.isOfLength = false := by
  unfold advanceHead at failed
  split at failed
  · cases failed
  · next block data found =>
    unfold PartHead.parse at failed
    cases read : HeaderBlock.parse (block ++ blankLine) with
    | ok headers => rw [read] at failed; cases failed
    | error fault =>
      rw [read] at failed
      exact Advance.fault.inj failed ▸ HeaderBlock.isOfLength_parse read

theorem isOfLength_advanceLineEnd (failed : advanceLineEnd buffer = .fault f) :
    f.isOfLength = false := by
  unfold advanceLineEnd at failed
  split at failed
  · split at failed
    · exact isOfLength_advanceHead failed
    · exact Advance.fault.inj failed ▸ rfl
  · cases failed

theorem isOfLength_advanceBehindDelimiter (failed : advanceBehindDelimiter buffer = .fault f) :
    f.isOfLength = false := by
  unfold advanceBehindDelimiter at failed
  split at failed
  · split at failed
    · cases failed
    · exact isOfLength_advanceLineEnd failed
  · cases failed

theorem isOfLength_advance {place : Place} (failed : advance delimiter place buffer = .fault f) :
    f.isOfLength = false := by
  cases place with
  | preamble =>
    simp only [advance, advancePreamble] at failed
    split at failed
    · cases failed
    · exact isOfLength_advanceBehindDelimiter failed
  | behindDelimiter => exact isOfLength_advanceBehindDelimiter failed
  | lineEnd => exact isOfLength_advanceLineEnd failed
  | head => exact isOfLength_advanceHead failed

theorem isOfLength_findPart {place : Place} {s : Stream}
    (failed : findPart delimiter place s = .fault f) : f.isOfLength = false := by
  fun_induction findPart delimiter place s with
  | case1 => exact Found.fault.inj failed ▸ rfl
  | case2 => exact Found.fault.inj failed ▸ rfl
  | case3 => cases failed
  | case4 => cases failed
  | case5 place s ended fault led => exact Found.fault.inj failed ▸ isOfLength_advance led
  | case6 => exact Found.fault.inj failed ▸ rfl
  | case7 => exact Found.fault.inj failed ▸ rfl
  | case8 _ _ _ _ _ _ _ _ ih => exact ih failed
  | case9 _ _ _ _ _ _ _ _ ih => exact ih failed
  | case10 => cases failed
  | case11 => cases failed
  | case12 place s later stop fault led => exact Found.fault.inj failed ▸ isOfLength_advance led

/-- No form is given up by its reader for the length of a part. -/
theorem isOfLength_fault?_readFrom {place : Place} {s : Stream}
    (ended : (Form.readFrom delimiter place s).fault? = some f) : f.isOfLength = false := by
  fun_induction Form.readFrom delimiter place s with
  | case1 => cases ended
  | case2 place s fault found => exact Option.some.inj ended ▸ isOfLength_findPart found
  | case3 place s head data found pieces fault read =>
    have failed : (readData delimiter head.name data).2 = .error fault := by rw [read]
    exact Option.some.inj ended ▸ (breaksOff_of_readData failed).isOfLength
  | case4 _ _ _ _ _ _ _ _ ih => exact ih ended

theorem isOfLength_fault?_read {boundary : Bytes} {body : Body}
    (ended : (Form.read boundary body).fault? = some f) : f.isOfLength = false :=
  isOfLength_fault?_readFrom ended

end Intake.FormData
