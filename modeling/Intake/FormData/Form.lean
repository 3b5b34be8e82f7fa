import Intake.FormData.Body
import Intake.FormData.PartHead

/-!
Forms: parts with a head and data, between delimiters.

A delimiter is two hyphens and the boundary. `Form.read` reads a form off a stream; its
result tells the parts in order, the data of each in the pieces in which it came, and how
the form ends. Octets that may be the start of a delimiter are held back until more
arrive (`release`), so the pieces of a part's data never hold a part of what closes it.
-/

namespace Intake.FormData

/-- The delimiter of a boundary. -/
def delimiter (boundary : Bytes) : Bytes :=
  Bytes.hyphen :: Bytes.hyphen :: boundary

/-! ## Up to the data of a part -/

/-- Where a reader stands between the data of one part and of the next. -/
inductive Place where
  /-- Before the first delimiter. -/
  | preamble
  /-- Right behind a delimiter. -/
  | behindDelimiter
  /-- At the line end behind a delimiter. -/
  | lineEnd
  /-- At a header block. -/
  | head
deriving DecidableEq, Repr

/-- How far a buffer takes a reader. -/
inductive Advance where
  /-- To a place from which the buffer does not lead on. -/
  | starved (place : Place) (kept : Bytes)
  /-- To the data of a part. -/
  | part (head : PartHead) (data : Bytes)
  /-- To the end of the form. -/
  | closed
  | fault (fault : Fault)
deriving DecidableEq, Repr

/-- The empty line that closes a header block, with the line end before it. -/
def blankLine : Bytes :=
  Bytes.crlf ++ Bytes.crlf

def advanceHead (buffer : Bytes) : Advance :=
  match Bytes.cut? blankLine buffer with
  | none => .starved .head buffer
  | some (block, data) =>
    match PartHead.parse (block ++ blankLine) with
    | .ok head => .part head data
    | .error fault => .fault fault

def advanceLineEnd (buffer : Bytes) : Advance :=
  match buffer.dropWhile HeaderBlock.isPadding with
  | a :: b :: rest =>
    if a = Bytes.cr ∧ b = Bytes.lf then advanceHead rest else .fault .incompleteStream
  | few => .starved .lineEnd few

def advanceBehindDelimiter (buffer : Bytes) : Advance :=
  match buffer with
  | a :: b :: _ =>
    if a = Bytes.hyphen ∧ b = Bytes.hyphen then .closed else advanceLineEnd buffer
  | _ => .starved .behindDelimiter buffer

def advancePreamble (delimiter buffer : Bytes) : Advance :=
  match Bytes.cut? delimiter buffer with
  | none => .starved .preamble buffer
  | some (_, rest) => advanceBehindDelimiter rest

/-- Leads a reader as far towards the data of a part as the buffer goes. -/
def advance (delimiter : Bytes) : Place → Bytes → Advance
  | .preamble => advancePreamble delimiter
  | .behindDelimiter => advanceBehindDelimiter
  | .lineEnd => advanceLineEnd
  | .head => advanceHead

/-- What a reader finds next in a form. -/
inductive Found where
  | part (head : PartHead) (data : Stream)
  | closed
  | fault (fault : Fault)
deriving DecidableEq, Repr

/-- Finds the data of the next part. Without a delimiter in sight the stream is asked once
more at once, and if it ends then, the form is incomplete. -/
def findPart (delimiter : Bytes) (place : Place) (s : Stream) : Found :=
  match _stop : s.stop with
  | .failed message => .fault (.streamFailed message)
  | .ended =>
    match advance delimiter place s.filled with
    | .starved _ _ => .fault .incompleteStream
    | .part head data => .part head ⟨data, []⟩
    | .closed => .closed
    | .fault fault => .fault fault
  | .paused later =>
    match advance delimiter place s.filled with
    | .starved .preamble kept =>
      match _again : (Stream.mk kept later).stop with
      | .failed message => .fault (.streamFailed message)
      | .ended => .fault .incompleteStream
      | .paused evenLater =>
        findPart delimiter .preamble ⟨(Stream.mk kept later).filled, evenLater⟩
    | .starved place kept => findPart delimiter place ⟨kept, later⟩
    | .part head data => .part head ⟨data, later⟩
    | .closed => .closed
    | .fault fault => .fault fault
termination_by s.body.length
decreasing_by
  · exact Nat.lt_trans (Body.length_of_paused _again) (Body.length_of_paused _stop)
  · exact Body.length_of_paused _stop

/-! ## The data of a part -/

/-- What closes the data of a part. -/
def closing (delimiter : Bytes) : Bytes :=
  Bytes.crlf ++ delimiter

/-- The run from the last carriage return on, if there is one. -/
def fromLastCr : Bytes → Option Bytes
  | [] => none
  | b :: rest =>
    match fromLastCr rest with
    | some tail => some tail
    | none => if b = Bytes.cr then some (b :: rest) else none

/-- The start of `closing` at the end of a buffer that may become the whole of it. -/
def heldBack (closing buffer : Bytes) : Bytes :=
  match fromLastCr (buffer.drop (buffer.length - (closing.length - 1))) with
  | some tail => if tail.isPrefixOf closing then tail else []
  | none => []

/-- A buffer without `closing` in it, as data that can be handed on and octets that cannot
yet. -/
def release (closing buffer : Bytes) : Bytes × Bytes :=
  let held := heldBack closing buffer
  (buffer.take (buffer.length - held.length), held)

/-- The data of a part in the pieces in which it came, and the stream behind the delimiter
that closes it. -/
def readData (delimiter : Bytes) (name : Option String) (s : Stream) :
    List Bytes × Except Fault Stream :=
  match _stop : s.stop with
  | .failed message => ([], .error (.streamFailed message))
  | .ended =>
    match Bytes.cut? (closing delimiter) s.filled with
    | some (piece, rest) => ([piece], .ok ⟨rest, []⟩)
    | none => ([], .error (.incompleteField name))
  | .paused later =>
    match Bytes.cut? (closing delimiter) s.filled with
    | some (piece, rest) => ([piece], .ok ⟨rest, later⟩)
    | none =>
      let (piece, held) := release (closing delimiter) s.filled
      let (pieces, ending) := readData delimiter name ⟨held, later⟩
      (if piece = [] then pieces else piece :: pieces, ending)
termination_by s.body.length
decreasing_by
  exact Body.length_of_paused _stop

/-! ## Reading on uses up the stream -/

theorem length_advanceHead {buffer data : Bytes} {head : PartHead}
    (h : advanceHead buffer = .part head data) : data.length < buffer.length := by
  simp only [advanceHead] at h
  split at h
  · simp at h
  · next found =>
    have less := Bytes.length_after_cut? found
    split at h
    · simp only [Advance.part.injEq] at h
      rw [← h.2]
      simp only [blankLine, Bytes.crlf, List.length_append, List.length_cons, List.length_nil]
        at less
      omega
    · simp at h

theorem length_advanceLineEnd {buffer data : Bytes} {head : PartHead}
    (h : advanceLineEnd buffer = .part head data) : data.length < buffer.length := by
  have shorter := (List.dropWhile_sublist HeaderBlock.isPadding (l := buffer)).length_le
  simp only [advanceLineEnd] at h
  split at h
  · next found =>
    rw [found] at shorter
    simp only [List.length_cons] at shorter
    split at h
    · have less := length_advanceHead h
      omega
    · simp at h
  · simp at h

theorem length_advanceBehindDelimiter {buffer data : Bytes} {head : PartHead}
    (h : advanceBehindDelimiter buffer = .part head data) : data.length < buffer.length := by
  simp only [advanceBehindDelimiter] at h
  split at h
  · split at h
    · simp at h
    · exact length_advanceLineEnd h
  · simp at h

theorem length_advance {delimiter : Bytes} {place : Place} {buffer data : Bytes}
    {head : PartHead} (h : advance delimiter place buffer = .part head data) :
    data.length < buffer.length := by
  cases place with
  | preamble =>
    simp only [advance, advancePreamble] at h
    split at h
    · simp at h
    · next found =>
      have less := Bytes.length_after_cut? found
      have more := length_advanceBehindDelimiter h
      omega
  | behindDelimiter => exact length_advanceBehindDelimiter h
  | lineEnd => exact length_advanceLineEnd h
  | head => exact length_advanceHead h

theorem length_advance_starved {delimiter : Bytes} {place stuck : Place} {buffer kept : Bytes}
    (h : advance delimiter place buffer = .starved stuck kept) :
    kept.length ≤ buffer.length := by
  have ofHead {run : Bytes} (h : advanceHead run = .starved stuck kept) :
      kept.length ≤ run.length := by
    simp only [advanceHead] at h
    split at h
    · simp only [Advance.starved.injEq] at h
      simp [h.2]
    · split at h <;> simp at h
  have ofLineEnd {run : Bytes} (h : advanceLineEnd run = .starved stuck kept) :
      kept.length ≤ run.length := by
    have shorter := (List.dropWhile_sublist HeaderBlock.isPadding (l := run)).length_le
    simp only [advanceLineEnd] at h
    split at h
    · next found =>
      rw [found] at shorter
      simp only [List.length_cons] at shorter
      split at h
      · have le := ofHead h
        omega
      · simp at h
    · simp only [Advance.starved.injEq] at h
      rw [← h.2]
      exact shorter
  have ofBehind {run : Bytes} (h : advanceBehindDelimiter run = .starved stuck kept) :
      kept.length ≤ run.length := by
    simp only [advanceBehindDelimiter] at h
    split at h
    · split at h
      · simp at h
      · exact ofLineEnd h
    · simp only [Advance.starved.injEq] at h
      simp [h.2]
  cases place with
  | preamble =>
    simp only [advance, advancePreamble] at h
    split at h
    · simp only [Advance.starved.injEq] at h
      simp [h.2]
    · next found =>
      have less := Bytes.length_after_cut? found
      have le := ofBehind h
      omega
  | behindDelimiter => exact ofBehind h
  | lineEnd => exact ofLineEnd h
  | head => exact ofHead h

/-- The data of a part begins behind something that is used up. -/
theorem weight_findPart {delimiter : Bytes} {place : Place} {s data : Stream} {head : PartHead}
    (h : findPart delimiter place s = .part head data) : data.weight < s.weight := by
  fun_induction findPart delimiter place s with
  | case3 place s ended head' data' found =>
    simp only [Found.part.injEq] at h
    obtain ⟨_, rfl⟩ := h
    have less := length_advance found
    have bound := Body.length_deliver_le s.body
    rw [Stream.filled_eq, List.length_append] at less
    simp only [Stream.weight, Body.weight]
    omega
  | case8 place s later stop kept starved evenLater again ih =>
    have first := Stream.weight_later stop (length_advance_starved starved)
    have second := Stream.weight_later again (Nat.le_refl _)
    exact Nat.lt_trans (ih h) (Nat.lt_trans second first)
  | case9 place s later stop place' kept notPreamble starved ih =>
    exact Nat.lt_trans (ih h) (Stream.weight_later stop (length_advance_starved starved))
  | case10 place s later stop head' data' found =>
    simp only [Found.part.injEq] at h
    obtain ⟨_, rfl⟩ := h
    exact Stream.weight_later stop (Nat.le_of_lt (length_advance found))
  | _ => simp at h

theorem length_heldBack_le (closing buffer : Bytes) :
    (heldBack closing buffer).length ≤ buffer.length := by
  have fromLast (run tail : Bytes) (h : fromLastCr run = some tail) :
      tail.length ≤ run.length := by
    induction run generalizing tail with
    | nil => simp [fromLastCr] at h
    | cons b run ih =>
      simp only [fromLastCr] at h
      split at h
      · next later found =>
        simp only [Option.some.injEq] at h
        subst h
        exact Nat.le_succ_of_le (ih _ found)
      · split at h
        · simp only [Option.some.injEq] at h
          simp [← h]
        · simp at h
  simp only [heldBack]
  split
  · next tail found =>
    have le := fromLast _ _ found
    rw [List.length_drop] at le
    split
    · omega
    · simp
  · simp

/-- Behind the data of a part no more is left than was there before. -/
theorem weight_readData {delimiter : Bytes} {name : Option String} {s rest : Stream}
    (h : (readData delimiter name s).2 = .ok rest) : rest.weight ≤ s.weight := by
  fun_induction readData delimiter name s with
  | case2 s ended piece after found =>
    simp only [Except.ok.injEq] at h
    subst h
    exact Stream.weight_ended (by have := Bytes.length_after_cut? found; omega)
  | case4 s later stop piece after found =>
    simp only [Except.ok.injEq] at h
    subst h
    exact Nat.le_of_lt
      (Stream.weight_later stop (by have := Bytes.length_after_cut? found; omega))
  | case5 s later stop _ piece held released pieces ending read ih =>
    simp only [read] at ih
    have le : held.length ≤ s.filled.length := by
      simp only [release, Prod.mk.injEq] at released
      rw [← released.2]
      exact length_heldBack_le (closing delimiter) s.filled
    have less : (Stream.mk held later).weight < s.weight := Stream.weight_later stop le
    exact Nat.le_trans (ih h) (Nat.le_of_lt less)
  | _ => simp at h

/-! ## The whole form -/

/-- A form as it was read. -/
inductive Form where
  /-- Its end was found. -/
  | closed
  /-- It breaks off, or is no form, between parts. -/
  | fault (fault : Fault)
  /-- A part, and the form behind it. -/
  | part (head : PartHead) (pieces : List Bytes) (rest : Form)
  /-- A part whose data break off behind some pieces. -/
  | broken (head : PartHead) (pieces : List Bytes) (fault : Fault)
deriving Repr

namespace Form

/-- Reads a form from a place on. -/
def readFrom (delimiter : Bytes) (place : Place) (s : Stream) : Form :=
  match _found : findPart delimiter place s with
  | .closed => .closed
  | .fault f => .fault f
  | .part head data =>
    match _read : readData delimiter head.name data with
    | (pieces, .error f) => .broken head pieces f
    | (pieces, .ok rest) => .part head pieces (readFrom delimiter .behindDelimiter rest)
termination_by s.weight
decreasing_by
  have less := weight_findPart _found
  have le : rest.weight ≤ data.weight := weight_readData (by rw [_read])
  omega

/-- Reads the form with the given boundary off a body. -/
def read (boundary : Bytes) (body : Body) : Form :=
  readFrom (delimiter boundary) .preamble ⟨[], body⟩

end Form

end Intake.FormData
