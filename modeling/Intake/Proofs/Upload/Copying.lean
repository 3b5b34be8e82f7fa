import Intake.Proofs.FormData.Truncation
import Intake.Proofs.Upload.Receipt
import Mathlib.Algebra.Order.Floor.Div
import Mathlib.Data.List.Induction
import Mathlib.GroupTheory.GroupAction.Ring

/-!
# Copying the wanted part

The frames of the wanted part are copied one after another, and each of them in pieces. `Copying` is
how far that has come; one step offers the next piece to the buffer (`Copying.offer`), and the whole
is the loop over the pieces within the loop over the frames (`copy_eq_finish`).

* `Copying.Follows.offer`: what one step keeps, and `follows_foldl` what all steps do.
* `length_pieces`, `length_le_of_mem_pieces`: how many pieces a frame has, and how long they are.
* `copy_of_fits`, `copy_of_overflow`: what the copying comes to within the limit and beyond it.
* `copy_exact`: all of this, for every sequence of frames and every way for it to end.
-/

namespace Intake

/-! ## Pieces of frames -/

/-- A frame has as many pieces as it takes, of which the last one may be shorter. -/
theorem length_pieces (size : Nat) (frame : Bytes) :
    (pieces size frame).length = frame.length ⌈/⌉ max size 1 := by
  have positive : 0 < max size 1 := Nat.lt_of_lt_of_le Nat.one_pos (Nat.le_max_right ..)
  induction length : frame.length using Nat.strongRecOn generalizing frame with
  | ind n ih =>
    cases frame with
    | nil =>
      subst length
      rw [pieces_nil]
      exact (zero_ceilDiv _).symm
    | cons b rest =>
      have shorter : ((b :: rest).drop (max size 1)).length = n - max size 1 := by
        rw [List.length_drop, length]
      have given : 0 < n := by
        rw [← length, List.length_cons]
        exact Nat.succ_pos _
      rw [pieces_cons, List.length_cons, ih (n - max size 1) (by omega) _ shorter,
        Nat.ceilDiv_eq_add_pred_div, Nat.ceilDiv_eq_add_pred_div]
      -- One piece is taken off, and what is left is a piece shorter or nothing.
      have whole : n + max size 1 - 1 = n - 1 + max size 1 := by omega
      rw [whole, Nat.add_div_right _ positive]
      rcases Nat.lt_or_ge n (max size 1) with last | more
      · rw [Nat.div_eq_of_lt (by omega), Nat.div_eq_of_lt (by omega)]
      · rw [Nat.sub_add_cancel more]

/-- No piece is longer than the size that was asked for, nor than the frame. -/
theorem length_le_of_mem_pieces {size : Nat} {frame piece : Bytes}
    (member : piece ∈ pieces size frame) :
    piece.length ≤ max size 1 ∧ piece.length ≤ frame.length := by
  induction length : frame.length using Nat.strongRecOn generalizing frame with
  | ind n ih =>
    cases frame with
    | nil =>
      rw [pieces_nil] at member
      cases member
    | cons b rest =>
      have given : 0 < n := by
        rw [← length, List.length_cons]
        exact Nat.succ_pos _
      rw [pieces_cons] at member
      rcases List.mem_cons.mp member with rfl | later
      · rw [List.length_take, length]
        omega
      · have left := ih (n - max size 1) (by omega) later (by rw [List.length_drop, length])
        omega

theorem length_le_of_mem_flatMap_pieces {size : Nat} {frames : List Bytes} {piece : Bytes}
    (member : piece ∈ frames.flatMap (pieces size)) :
    piece.length ≤ max size 1 ∧ ∃ frame ∈ frames, piece.length ≤ frame.length := by
  obtain ⟨frame, inside, cut⟩ := List.mem_flatMap.mp member
  obtain ⟨short, shorter⟩ := length_le_of_mem_pieces cut
  exact ⟨short, frame, inside, shorter⟩

theorem length_flatMap_pieces (size : Nat) (frames : List Bytes) :
    (frames.flatMap (pieces size)).length =
      (frames.map fun frame => frame.length ⌈/⌉ max size 1).sum := by
  rw [List.length_flatMap]
  exact congrArg List.sum (List.map_congr_left fun frame _ => length_pieces size frame)

/-! ## Refused pieces -/

namespace BoundedBuffer

variable {b : BoundedBuffer} {pieces more : List Bytes} {overflow : Overflow}

/-- What is behind a piece that was refused does not matter. -/
theorem extendAll?_append_of_error (more : List Bytes)
    (refused : b.extendAll? pieces = .error overflow) :
    b.extendAll? (pieces ++ more) = .error overflow := by
  induction pieces generalizing b with
  | nil => cases refused
  | cons piece pieces ih =>
    rw [List.cons_append]
    unfold extendAll? at refused ⊢
    cases extended : b.extend? piece with
    | error other =>
      rw [extended] at refused
      exact refused
    | ok next =>
      rw [extended] at refused
      exact ih refused

theorem attempted_of_extend? {piece : Bytes} (refused : b.extend? piece = .error overflow) :
    overflow.attempted = b.size + piece.length := by
  unfold extend? at refused
  split at refused
  · cases refused
  · cases refused
    rfl

/-- A limit is passed by no more than the length of a piece. -/
theorem attempted_le_of_extendAll? {size : Nat} (short : ∀ piece ∈ pieces, piece.length ≤ size)
    (refused : b.extendAll? pieces = .error overflow) : overflow.attempted ≤ b.limit + size := by
  induction pieces generalizing b with
  | nil => cases refused
  | cons piece pieces ih =>
    unfold extendAll? at refused
    cases extended : b.extend? piece with
    | error other =>
      rw [extended] at refused
      cases refused
      have length := short piece (List.mem_cons_self ..)
      have within := b.size_le
      rw [attempted_of_extend? extended]
      omega
    | ok next =>
      rw [extended] at refused
      rw [← limit_extend? extended]
      exact ih (fun piece later => short piece (List.mem_cons_of_mem _ later)) refused

end BoundedBuffer

/-! ## Step by step -/

/-- How far the copying of frames has come. -/
structure Copying where
  buffer : BoundedBuffer
  /-- The pieces that were offered to the buffer. -/
  offered : Nat := 0
  /-- The total that the last piece would have led to, if it was refused. -/
  overflow : Option Overflow := none

namespace Copying

/-- Offers a piece to the buffer, unless one was refused before. The buffer of a refused piece stays
as it is. -/
def offer (c : Copying) (piece : Bytes) : Copying :=
  match c.overflow with
  | some _ => c
  | none =>
    match c.buffer.extend? piece with
    | .ok next => { c with buffer := next, offered := c.offered + 1 }
    | .error overflow => { c with offered := c.offered + 1, overflow := some overflow }

/-- Copies a frame piece by piece. -/
def copyFrame (chunkSize : Nat) (c : Copying) (frame : Bytes) : Copying :=
  (pieces chunkSize frame).foldl offer c

/-- What the copying of a part comes to that ends in a given way. -/
def finish (c : Copying) (d : UploadDescriptor) (head : FormData.PartHead)
    (ending : Option FormData.Fault) : Traced Artifact :=
  match c.overflow with
  | some overflow => d.refuse overflow
  | none =>
    match ending with
    | some fault => d.abort fault
    | none =>
      ⟨[{ level := .debug, message := "Completed upload stream copy",
          fields := [("field", .text d.field), ("total_chunks", .count c.offered),
            ("total_bytes", .count c.buffer.size)] }],
        .ok ⟨c.buffer.contents, head.filename.getD "", head.contentType⟩⟩

/-- The copying stands where the pieces that were `given` take it under a limit. -/
structure Follows (limit : Nat) (given : List Bytes) (c : Copying) : Prop where
  limit : c.buffer.limit = limit
  holds : c.buffer.contents <+: given.flatten
  whole : c.overflow = none → c.buffer.contents = given.flatten ∧ c.offered = given.length

variable {limit : Nat} {given : List Bytes} {c : Copying}

theorem offer_of_overflow {overflow : Overflow} (refused : c.overflow = some overflow)
    (piece : Bytes) : c.offer piece = c := by
  rw [offer, refused]

/-- A piece is appended and counted, or it is refused and the buffer stays as it is. -/
theorem offer_cases (running : c.overflow = none) (piece : Bytes) :
    (∃ next, c.buffer.extend? piece = .ok next ∧
      c.offer piece = { buffer := next, offered := c.offered + 1, overflow := none }) ∨
    ∃ overflow, c.buffer.extend? piece = .error overflow ∧
      c.offer piece =
        { buffer := c.buffer, offered := c.offered + 1, overflow := some overflow } := by
  cases extended : c.buffer.extend? piece with
  | ok next => exact .inl ⟨next, rfl, by rw [offer, running, extended]⟩
  | error overflow => exact .inr ⟨overflow, rfl, by rw [offer, running, extended]⟩

theorem buffer_offer_of_refused {piece : Bytes} {overflow : Overflow}
    (refused : c.buffer.extend? piece = .error overflow) : (c.offer piece).buffer = c.buffer := by
  cases running : c.overflow with
  | some earlier => rw [offer_of_overflow running]
  | none => rw [offer, running, refused]

theorem follows_start (limit : Nat) : Follows limit [] { buffer := .empty limit } :=
  ⟨rfl, List.prefix_refl _, fun _ => ⟨rfl, rfl⟩⟩

/-- One step follows the piece that it offers. -/
theorem Follows.offer (follows : Follows limit given c) (piece : Bytes) :
    Follows limit (given ++ [piece]) (c.offer piece) := by
  have longer : given.flatten <+: (given ++ [piece]).flatten := by
    rw [List.flatten_concat]
    exact List.prefix_append ..
  cases running : c.overflow with
  | some overflow =>
    rw [offer_of_overflow running]
    refine ⟨follows.limit, follows.holds.trans longer, fun none_ => ?_⟩
    cases running.symm.trans none_
  | none =>
    obtain ⟨contents, offered⟩ := follows.whole running
    rcases offer_cases running piece with ⟨next, extended, same⟩ | ⟨overflow, -, same⟩
    · have grown : next.contents = (given ++ [piece]).flatten := by
        rw [BoundedBuffer.contents_extend? extended, contents, List.flatten_concat]
      rw [same]
      refine ⟨?_, ?_, fun _ => ⟨grown, ?_⟩⟩
      · exact (BoundedBuffer.limit_extend? extended).trans follows.limit
      · exact grown ▸ List.prefix_refl _
      · rw [List.length_append, List.length_singleton, offered]
    · rw [same]
      exact ⟨follows.limit, follows.holds.trans longer, nofun⟩

/-- The steps follow the pieces that they offer. -/
theorem follows_foldl (limit : Nat) (given : List Bytes) :
    Follows limit given (given.foldl Copying.offer { buffer := .empty limit }) := by
  induction given using List.reverseRecOn with
  | nil => exact follows_start limit
  | append_singleton given piece ih =>
    rw [List.foldl_concat]
    exact ih.offer piece

/-- Offering pieces one after another comes to appending them all, up to the first that is
refused. -/
theorem foldl_offer (running : c.overflow = none) (given : List Bytes) :
    (∃ full, c.buffer.extendAll? given = .ok full ∧ given.foldl Copying.offer c =
      { buffer := full, offered := c.offered + given.length, overflow := none }) ∨
    ∃ overflow, c.buffer.extendAll? given = .error overflow ∧
      (given.foldl Copying.offer c).overflow = some overflow := by
  induction given generalizing c with
  | nil =>
    obtain ⟨buffer, offered, overflow⟩ := c
    obtain rfl : overflow = none := running
    exact .inl ⟨buffer, rfl, rfl⟩
  | cons piece given ih =>
    rw [List.foldl_cons]
    unfold BoundedBuffer.extendAll?
    rcases offer_cases running piece with ⟨next, extended, same⟩ | ⟨overflow, refused, same⟩
    · rw [same, extended, List.length_cons, Nat.add_comm given.length, ← Nat.add_assoc]
      exact @ih ⟨next, c.offered + 1, none⟩ rfl
    · have stays : given.foldl Copying.offer (c.offer piece) = c.offer piece := by
        rw [same]
        exact List.foldl_fixed' (fun more => offer_of_overflow rfl more) given
      rw [stays, same, refused]
      exact .inr ⟨overflow, rfl, rfl⟩

end Copying

/-! ## The whole copying -/

namespace UploadDescriptor

variable (d : UploadDescriptor) (chunkSize : Nat) (head : FormData.PartHead)
  {frames : List Bytes} {ending : Option FormData.Fault}

/-- Copying is the loop over the pieces of a frame within the loop over the frames. -/
theorem copy_eq_finish (buffer : BoundedBuffer) (frames : List Bytes)
    (ending : Option FormData.Fault) :
    d.copy chunkSize head buffer frames ending =
      (frames.foldl (Copying.copyFrame chunkSize) { buffer }).finish d head ending := by
  have loops : frames.foldl (Copying.copyFrame chunkSize) { buffer } =
      (frames.flatMap (pieces chunkSize)).foldl Copying.offer { buffer } :=
    List.foldl_flatMap.symm
  rw [loops, copy]
  rcases Copying.foldl_offer (c := { buffer }) rfl (frames.flatMap (pieces chunkSize)) with
    ⟨full, gathered, same⟩ | ⟨overflow, refused, stopped⟩
  · rw [gathered, same, Nat.zero_add]
    cases ending with
    | some fault => rfl
    | none => rfl
  · rw [refused, Copying.finish.eq_def, stopped]

/-- Frames within the limit are gathered in order, unless they break off. -/
theorem copy_of_fits (fits : frames.flatten.length ≤ d.limit) :
    d.copy chunkSize head (.empty d.limit) frames ending =
      match ending with
      | some fault => d.abort fault
      | none =>
        ⟨[{ level := .debug, message := "Completed upload stream copy",
            fields := [("field", .text d.field),
              ("total_chunks",
                .count (frames.map fun frame => frame.length ⌈/⌉ max chunkSize 1).sum),
              ("total_bytes", .count frames.flatten.length)] }],
          .ok ⟨frames.flatten, head.filename.getD "", head.contentType⟩⟩ := by
  have room : (BoundedBuffer.empty d.limit).size +
      Bytes.total (frames.flatMap (pieces chunkSize)) ≤ d.limit := by
    rw [Bytes.total_eq, flatten_flatMap_pieces, BoundedBuffer.empty, Nat.zero_add]
    exact fits
  obtain ⟨full, gathered, contents⟩ := BoundedBuffer.extendAll?_of_fits room
  have whole : full.contents = frames.flatten := by
    rw [contents, flatten_flatMap_pieces]
    rfl
  rw [copy, gathered, length_flatMap_pieces]
  cases ending with
  | some fault => rfl
  | none =>
    dsimp only
    rw [Traced.bind_of_ok rfl, ← full.length_contents, whole]
    rfl

/-- Frames that pass the limit are refused at the frame that does, by no more than a piece, and
whatever follows that frame. -/
theorem copy_of_overflow (beyond : d.limit < frames.flatten.length) :
    ∃ received, d.limit < received ∧ received ≤ d.limit + max chunkSize 1 ∧
      received ≤ frames.flatten.length ∧
      ∀ more ending, d.copy chunkSize head (.empty d.limit) (frames ++ more) ending =
        d.refuse ⟨received⟩ := by
  have total : (BoundedBuffer.empty d.limit).size +
      Bytes.total (frames.flatMap (pieces chunkSize)) = frames.flatten.length := by
    rw [Bytes.total_eq, flatten_flatMap_pieces, BoundedBuffer.empty, Nat.zero_add]
  obtain ⟨overflow, refused, above, below⟩ :=
    BoundedBuffer.extendAll?_of_overflow (b := .empty d.limit) (total.symm ▸ beyond)
  refine ⟨overflow.attempted, above, ?_, total ▸ below, fun more ending => ?_⟩
  · exact BoundedBuffer.attempted_le_of_extendAll?
      (fun piece member => (length_le_of_mem_flatMap_pieces member).1) refused
  · rw [copy, List.flatMap_append, BoundedBuffer.extendAll?_append_of_error _ refused]

/-- The frames pass the limit if some of them do together, from the first one on. -/
theorem lt_length_flatten_iff {limit : Nat} :
    limit < frames.flatten.length ↔ ∃ taken, taken <+: frames ∧ limit < taken.flatten.length := by
  constructor
  · exact fun beyond => ⟨frames, List.prefix_refl _, beyond⟩
  · rintro ⟨taken, ⟨more, rfl⟩, beyond⟩
    rw [List.flatten_append, List.length_append]
    exact Nat.lt_of_lt_of_le beyond (Nat.le_add_right ..)

/-- The failure of a fault is that the upload is too large just if the fault is that a part is. -/
theorem ofFault_eq_tooLarge_iff {fault : FormData.Fault} :
    (∃ message, Failure.ofFault fault = .payloadTooLarge .streaming message) ↔
      ∃ name cap, fault = .fieldTooLarge name cap := by
  constructor
  · rintro ⟨message, same⟩
    cases fault with
    | fieldTooLarge name cap => exact ⟨name, cap, rfl⟩
    | _ => exact absurd same nofun
  · rintro ⟨name, cap, rfl⟩
    exact ⟨_, rfl⟩

/-- Copying tells that the upload is too large if the frames pass the limit, or if they break off
because of the length of the part. -/
theorem copy_eq_tooLarge_iff :
    (∃ message, (d.copy chunkSize head (.empty d.limit) frames ending).result =
        .error (.payloadTooLarge .streaming message)) ↔
      d.limit < frames.flatten.length ∨ ∃ name cap, ending = some (.fieldTooLarge name cap) := by
  rcases Nat.lt_or_ge d.limit frames.flatten.length with beyond | fits
  · refine iff_of_true ?_ (.inl beyond)
    obtain ⟨received, -, -, -, refused⟩ := d.copy_of_overflow chunkSize head beyond
    have whole := refused [] ending
    rw [List.append_nil] at whole
    exact ⟨_, by rw [whole]; rfl⟩
  · rw [d.copy_of_fits chunkSize head fits, or_iff_right (Nat.not_lt.mpr fits)]
    cases ending with
    | none => exact iff_of_false (by rintro ⟨message, ⟨⟩⟩) (by rintro ⟨name, cap, ⟨⟩⟩)
    | some fault =>
      simp only [abort, Except.error.injEq, Option.some.injEq]
      exact ofFault_eq_tooLarge_iff

/-- Copying is exact. It is the loop over the pieces of a frame within the loop over the frames, and
it begins with an empty buffer at the limit.

It tells that the upload is too large just if some frames pass the limit together, from the first
one on, or if the data break off because of their length, as no data do that were read. Then what
follows the frame that passes the limit does not matter, and the size that is told is beyond the
limit by no more than a piece and no larger than what had arrived. Otherwise a fault that the data
break off with is told, or the octets of all frames are received in order, and the pieces of all
frames are counted.

After any of the pieces the buffer holds the first octets of the frames and no more than the limit,
a piece that is refused leaves it as it is, and sizes fit a word. -/
theorem copy_exact [Memory] (d : UploadDescriptor) (chunkSize : Nat) (head : FormData.PartHead)
    (frames : List Bytes) (ending : Option FormData.Fault) :
    (∀ buffer, BoundedBuffer.reserve d.limit = .ok buffer →
      buffer = .empty d.limit ∧ d.limit < 2 ^ 63) ∧
    d.copy chunkSize head (.empty d.limit) frames ending =
      (frames.foldl (Copying.copyFrame chunkSize) { buffer := .empty d.limit }).finish d head
        ending ∧
    ((∃ message, (d.copy chunkSize head (.empty d.limit) frames ending).result =
        .error (.payloadTooLarge .streaming message)) ↔
      (∃ taken, taken <+: frames ∧ d.limit < taken.flatten.length) ∨
        ∃ name cap, ending = some (.fieldTooLarge name cap)) ∧
    (∀ delimiter name s fault, (FormData.readData delimiter name s).2 = .error fault →
      ∀ name cap, fault ≠ .fieldTooLarge name cap) ∧
    (∀ taken, taken <+: frames → d.limit < taken.flatten.length →
      ∃ received, d.limit < received ∧ received ≤ d.limit + max chunkSize 1 ∧
        received ≤ taken.flatten.length ∧
        d.copy chunkSize head (.empty d.limit) frames ending = d.refuse ⟨received⟩ ∧
        ∀ more otherwise_, d.copy chunkSize head (.empty d.limit) (taken ++ more) otherwise_ =
          d.refuse ⟨received⟩) ∧
    (frames.flatten.length ≤ d.limit →
      d.copy chunkSize head (.empty d.limit) frames ending =
        match ending with
        | some fault => ⟨d.noticeOfFault fault, .error (.ofFault fault)⟩
        | none =>
          ⟨[{ level := .debug, message := "Completed upload stream copy",
              fields := [("field", .text d.field),
                ("total_chunks",
                  .count (frames.map fun frame => frame.length ⌈/⌉ max chunkSize 1).sum),
                ("total_bytes", .count frames.flatten.length)] }],
            .ok ⟨frames.flatten, head.filename.getD "", head.contentType⟩⟩) ∧
    ∀ given, given <+: frames.flatMap (pieces chunkSize) →
      let reached := given.foldl Copying.offer { buffer := .empty d.limit }
      reached.buffer.contents <+: frames.flatten ∧ reached.buffer.contents.length ≤ d.limit ∧
      ∀ piece ∈ frames.flatMap (pieces chunkSize),
        (∀ overflow, reached.buffer.extend? piece = .error overflow →
          overflow.attempted = reached.buffer.size + piece.length ∧
            (reached.offer piece).buffer = reached.buffer) ∧
        (d.limit < 2 ^ 63 → (∀ frame ∈ frames, frame.length < 2 ^ 63) →
          reached.buffer.size + piece.length < 2 ^ 64) := by
  refine ⟨?_, d.copy_eq_finish chunkSize head _ frames ending, ?_, ?_, ?_,
    d.copy_of_fits chunkSize head, ?_⟩
  · intro buffer reserved
    refine ⟨BoundedBuffer.eq_empty_of_reserve reserved, ?_⟩
    unfold BoundedBuffer.reserve at reserved
    split at reserved
    · cases reserved
    · next possible => exact Nat.lt_of_not_le possible
  · rw [← lt_length_flatten_iff]
    exact d.copy_eq_tooLarge_iff chunkSize head
  · rintro delimiter name s fault ended _ cap rfl
    cases FormData.breaksOff_of_readData ended
  · rintro taken ⟨rest, rfl⟩ beyond
    obtain ⟨received, above, near, arrived, refused⟩ := d.copy_of_overflow chunkSize head beyond
    exact ⟨received, above, near, arrived, refused rest ending, refused⟩
  · intro given taken reached
    have follows := Copying.follows_foldl d.limit given
    have within : reached.buffer.size ≤ d.limit := follows.limit ▸ reached.buffer.size_le
    refine ⟨?_, ?_, fun piece member => ⟨fun overflow refused => ?_, fun reservable bounded => ?_⟩⟩
    · obtain ⟨rest, whole⟩ := taken
      have longer : given.flatten <+: frames.flatten := by
        rw [← flatten_flatMap_pieces chunkSize frames, ← whole, List.flatten_append]
        exact List.prefix_append ..
      exact follows.holds.trans longer
    · rw [BoundedBuffer.length_contents]
      exact within
    · exact ⟨BoundedBuffer.attempted_of_extend? refused, Copying.buffer_offer_of_refused refused⟩
    · obtain ⟨-, frame, inside, shorter⟩ := length_le_of_mem_flatMap_pieces member
      have short := bounded frame inside
      omega

/-- Frames of 2, 0, 3 and 1 octets are refused under a limit of 4 when the second piece of the third
frame would make them 5, although the data break off behind them; under a limit of 6 they are
received, in 4 pieces. -/
theorem copy_exact_at_limit :
    (⟨.absent, "a", 4, 4⟩ : UploadDescriptor).copy 2 ⟨some "a", none, ""⟩ (.empty 4)
        [[1, 2], [], [3, 4, 5], [6]] (some (.incompleteField none)) =
      (⟨.absent, "a", 4, 4⟩ : UploadDescriptor).refuse ⟨5⟩ ∧
    (⟨.absent, "a", 6, 4⟩ : UploadDescriptor).copy 2 ⟨some "a", none, ""⟩ (.empty 6)
        [[1, 2], [], [3, 4, 5], [6]] none =
      ⟨[{ level := .debug, message := "Completed upload stream copy",
          fields := [("field", .text "a"), ("total_chunks", .count 4),
            ("total_bytes", .count 6)] }],
        .ok ⟨[1, 2, 3, 4, 5, 6], "", ""⟩⟩ := by
  constructor
  · obtain ⟨received, above, -, arrived, refused, -⟩ :=
      (copy_exact ⟨.absent, "a", 4, 4⟩ 2 ⟨some "a", none, ""⟩ [[1, 2], [], [3, 4, 5], [6]]
        (some (.incompleteField none))).2.2.2.2.1 [[1, 2], [], [3, 4, 5]] ⟨[[6]], rfl⟩ (by decide)
    have five : received = 5 := Nat.le_antisymm arrived above
    rw [refused, five]
  · exact (copy_exact ⟨.absent, "a", 6, 4⟩ 2 ⟨some "a", none, ""⟩ [[1, 2], [], [3, 4, 5], [6]]
      none).2.2.2.2.2.1 (by decide)

end UploadDescriptor

end Intake
