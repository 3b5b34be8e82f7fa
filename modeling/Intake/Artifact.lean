import Intake.Bytes
import Intake.Word

/-!
Received artifacts, and the bounded buffer in which one is gathered.

A `BoundedBuffer` carries its ceiling: `size_le` holds of every buffer there is, and a
piece that would pass the ceiling is refused whole (`extend?`). Whether a buffer of some size can
be had at all is up to the machine that all this runs on (`Memory`), of which nothing is known.
-/

namespace Intake

/-- A form field that was received: its octets, and what the client said of them. -/
structure Artifact where
  bytes : Bytes
  /-- The name that the client gave, empty if it gave none. -/
  filename : String
  /-- The content type that the client gave, empty if it gave none. -/
  mimeType : String
deriving DecidableEq, Repr

def Artifact.size (a : Artifact) : Nat :=
  a.bytes.length

/-- Why a buffer could not be reserved. -/
inductive ReserveFault where
  /-- No buffer can be that large. -/
  | capacityOverflow
  /-- There is not that much memory. -/
  | outOfMemory
deriving DecidableEq, Repr

def ReserveFault.message : ReserveFault → String
  | capacityOverflow =>
    "memory allocation failed because the computed capacity exceeded the collection's maximum"
  | outOfMemory => "memory allocation failed because the memory allocator returned an error"

/-- The memory of a machine: the sizes for which it grants a buffer. -/
class Memory where
  grants : Nat → Bool

/-- The memory that a program finds where it is run. No machine of today grants 2 ^ 62 octets. -/
instance (priority := low) Memory.ofMachine : Memory where
  grants size := decide (size < 4611686018427387904)

/-- Octets gathered so far, under a ceiling. -/
structure BoundedBuffer where
  limit : Nat
  /-- What was appended, the latest first. -/
  pieces : List Bytes
  size : Nat
  size_eq : size = Bytes.total pieces
  size_le : size ≤ limit

/-- An append that would have passed the ceiling. -/
structure Overflow where
  /-- The size that it would have led to. -/
  attempted : Nat
deriving DecidableEq, Repr

namespace BoundedBuffer

/-- An empty buffer. -/
def empty (limit : Nat) : BoundedBuffer where
  limit
  pieces := []
  size := 0
  size_eq := rfl
  size_le := Nat.zero_le _

/-- Reserves a buffer of the given size. -/
def reserve [Memory] (limit : Nat) : Except ReserveFault BoundedBuffer :=
  if Word.signedLimit ≤ limit then .error .capacityOverflow
  else if Memory.grants limit then .ok (empty limit)
  else .error .outOfMemory

/-- The octets gathered so far. -/
def contents (b : BoundedBuffer) : Bytes :=
  b.pieces.reverse.flatten

/-- Appends a piece, unless that would pass the ceiling. -/
def extend? (b : BoundedBuffer) (piece : Bytes) : Except Overflow BoundedBuffer :=
  if fits : b.size + piece.length ≤ b.limit then
    .ok {
      limit := b.limit
      pieces := piece :: b.pieces
      size := b.size + piece.length
      size_eq := by rw [Bytes.total, b.size_eq, Nat.add_comm]
      size_le := fits
    }
  else .error ⟨b.size + piece.length⟩

/-- Appends pieces in order, up to the first that would pass the ceiling. -/
def extendAll? (b : BoundedBuffer) : List Bytes → Except Overflow BoundedBuffer
  | [] => .ok b
  | piece :: rest =>
    match b.extend? piece with
    | .ok next => next.extendAll? rest
    | .error overflow => .error overflow

theorem length_contents (b : BoundedBuffer) : b.contents.length = b.size := by
  rw [b.size_eq, contents, ← Bytes.total_eq, Bytes.total_reverse]

theorem contents_extend? {b next : BoundedBuffer} {piece : Bytes}
    (h : b.extend? piece = .ok next) : next.contents = b.contents ++ piece := by
  simp only [extend?] at h
  split at h
  · simp only [Except.ok.injEq] at h
    simp [← h, contents]
  · simp at h

theorem limit_extend? {b next : BoundedBuffer} {piece : Bytes}
    (h : b.extend? piece = .ok next) : next.limit = b.limit := by
  simp only [extend?] at h
  split at h
  · simp only [Except.ok.injEq] at h
    simp [← h]
  · simp at h

end BoundedBuffer

/-! ## Cutting frames -/

/-- Continues `pieces` behind those already `cut`, the latest of which is first. -/
def piecesBehind (size : Nat) (cut : List Bytes) : Bytes → List Bytes
  | [] => cut.reverse
  | b :: frame =>
    piecesBehind size ((b :: frame).take (max size 1) :: cut) ((b :: frame).drop (max size 1))
termination_by frame => frame.length
decreasing_by
  simp only [List.length_drop, List.length_cons]
  omega

/-- A frame cut into pieces of `size` octets, the last of which may be shorter; a size of 0
counts as 1. -/
def pieces (size : Nat) (frame : Bytes) : List Bytes :=
  piecesBehind size [] frame

theorem piecesBehind_append (size : Nat) (cut more : List Bytes) (frame : Bytes) :
    piecesBehind size (cut ++ more) frame = more.reverse ++ piecesBehind size cut frame := by
  fun_induction piecesBehind size cut frame with
  | case1 cut => simp [piecesBehind]
  | case2 cut b frame ih =>
    rw [piecesBehind]
    exact ih

theorem pieces_nil (size : Nat) : pieces size [] = [] := by
  simp [pieces, piecesBehind]

theorem pieces_cons (size : Nat) (b : UInt8) (frame : Bytes) :
    pieces size (b :: frame) =
      (b :: frame).take (max size 1) :: pieces size ((b :: frame).drop (max size 1)) := by
  rw [pieces, piecesBehind]
  exact piecesBehind_append size [] [_] _

/-- The pieces of a frame read the frame. -/
theorem flatten_pieces (size : Nat) : ∀ frame : Bytes, (pieces size frame).flatten = frame
  | [] => by rw [pieces_nil, List.flatten_nil]
  | b :: frame => by
    rw [pieces_cons, List.flatten_cons, flatten_pieces size ((b :: frame).drop (max size 1)),
      List.take_append_drop]
termination_by frame => frame.length
decreasing_by
  simp only [List.length_drop, List.length_cons]
  omega

end Intake
