import Intake.Proofs.FormData.RoundTrip

/-!
# Bodies that break off

A body breaks off when it ends, or fails, before the delimiter that closes the last part of
interest is there. What did arrive and what was lost make up the octets that were written, and it
is the whole of them that the statements speak of: wherever the loss begins, and however the rest
is cut up and waited for, the form is read as far as it goes (`Form.CutShort`).

* `findPart_of_lost`: a part is found where it was written, or the reader learns of the loss.
* `readData_of_lost`: the data of a part are read whole, or the reader learns of the loss.
* `cutShort_read`: no form with such a loss is read to the end of its last part.
-/

namespace Intake.FormData

/-! ## What arrives -/

/-- The octets that arrive before a body ends or fails. -/
def Body.arriving : Body → Bytes
  | [] => []
  | .frame octets :: rest => octets ++ Body.arriving rest
  | .wait :: rest => Body.arriving rest
  | .fail _ :: _ => []

/-- The octets that can still be read. -/
def Stream.arriving (s : Stream) : Bytes :=
  s.buffer ++ s.body.arriving

theorem Body.arriving_of_ended {body : Body} (stop : body.deliver.2 = .ended) :
    body.arriving = body.deliver.1 := by
  induction body with
  | nil => rfl
  | cons event rest ih =>
    cases event with
    | frame octets => rw [arriving, deliver, ih stop]
    | wait => cases stop
    | fail message => cases stop

theorem Body.arriving_of_paused {body later : Body} (stop : body.deliver.2 = .paused later) :
    body.arriving = body.deliver.1 ++ later.arriving := by
  induction body with
  | nil => cases stop
  | cons event rest ih =>
    cases event with
    | frame octets => rw [arriving, deliver, ih stop, List.append_assoc]
    | wait => cases stop; rfl
    | fail message => cases stop

theorem Stream.arriving_of_ended {s : Stream} (stop : s.stop = .ended) :
    s.arriving = s.filled := by
  rw [arriving, filled_eq, Body.arriving_of_ended stop]

theorem Stream.arriving_of_paused {s : Stream} {later : Body} (stop : s.stop = .paused later) :
    s.arriving = s.filled ++ later.arriving := by
  rw [arriving, filled_eq, Body.arriving_of_paused stop, List.append_assoc]

/-- What a reader learns of when octets were lost. -/
inductive Fault.BreaksOff : Fault → Prop
  | betweenParts : BreaksOff .incompleteStream
  | withinPart (name : Option String) : BreaksOff (.incompleteField name)
  | failed (message : String) : BreaksOff (.streamFailed message)

/-! ## One part -/

section

variable {delimiter lost : Bytes} {place : Place} {s : Stream}

/-- A part is found where the octets that arrive and the lost ones lead to it, or the reader
learns of the loss. -/
theorem findPart_of_lost {head : PartHead} {octets : Bytes}
    (leads : advance delimiter place (s.arriving ++ lost) = .part head octets) :
    (∃ f, findPart delimiter place s = .fault f ∧ f.BreaksOff) ∨
      ∃ data, findPart delimiter place s = .part head data ∧ data.arriving ++ lost = octets := by
  fun_induction findPart delimiter place s with
  | case1 place s message stop => exact .inl ⟨_, rfl, .failed message⟩
  | case2 place s stop place' kept found => exact .inl ⟨_, rfl, .betweenParts⟩
  | case3 place s stop head' data found =>
    rw [Stream.arriving_of_ended stop, advance_append, found] at leads
    cases leads
    exact .inr ⟨_, rfl, by rw [Stream.arriving, Body.arriving, List.append_nil]⟩
  | case4 place s stop found =>
    rw [Stream.arriving_of_ended stop, advance_append, found] at leads
    cases leads
  | case5 place s stop f found =>
    rw [Stream.arriving_of_ended stop, advance_append, found] at leads
    cases leads
  | case6 place s later stop kept found message again => exact .inl ⟨_, rfl, .failed message⟩
  | case7 place s later stop kept found again => exact .inl ⟨_, rfl, .betweenParts⟩
  | case8 place s later stop kept found evenLater again ih =>
    rw [Stream.arriving_of_paused stop, List.append_assoc, advance_append, found] at leads
    -- The stream is asked once more, so what it has kept is filled up before the next round.
    have same : (Stream.mk (Stream.mk kept later).filled evenLater).arriving =
        kept ++ later.arriving := (Stream.arriving_of_paused again).symm
    rw [same, List.append_assoc] at ih
    exact ih leads
  | case9 place s later stop place' kept behind found ih =>
    rw [Stream.arriving_of_paused stop, List.append_assoc, advance_append, found] at leads
    rw [Stream.arriving, List.append_assoc] at ih
    exact ih leads
  | case10 place s later stop head' data found =>
    rw [Stream.arriving_of_paused stop, List.append_assoc, advance_append, found] at leads
    cases leads
    exact .inr ⟨_, rfl, by rw [Stream.arriving, List.append_assoc]⟩
  | case11 place s later stop found =>
    rw [Stream.arriving_of_paused stop, List.append_assoc, advance_append, found] at leads
    cases leads
  | case12 place s later stop f found =>
    rw [Stream.arriving_of_paused stop, List.append_assoc, advance_append, found] at leads
    cases leads

/-- The data of a part are read whole, or the reader learns of the loss, behind pieces of what
was written. -/
theorem readData_of_lost {content after : Bytes} (name : Option String)
    (once : Bytes.cr ∉ delimiter)
    (cut : Bytes.FirstCut (closing delimiter) (s.arriving ++ lost) content after) :
    (∃ pieces f, readData delimiter name s = (pieces, .error f) ∧ f.BreaksOff ∧
      pieces.flatten <+: content) ∨
    ∃ pieces rest, readData delimiter name s = (pieces, .ok rest) ∧ pieces.flatten = content ∧
      rest.arriving ++ lost = after := by
  have plain := cr_not_mem_lf_cons once
  fun_induction readData delimiter name s generalizing content with
  | case1 s message stop => exact .inl ⟨_, _, rfl, .failed message, List.nil_prefix⟩
  | case2 s stop piece behind found =>
    have further := (Bytes.cut?_eq_some_iff.mp found).append lost
    rw [← Bytes.cut?_eq_some_iff, ← Stream.arriving_of_ended stop,
      Bytes.cut?_eq_some_iff.mpr cut] at further
    cases further
    exact .inr ⟨_, _, rfl, List.flatten_singleton, by
      rw [Stream.arriving, Body.arriving, List.append_nil]⟩
  | case3 s stop found => exact .inl ⟨_, _, rfl, .withinPart name, List.nil_prefix⟩
  | case4 s later stop piece behind found =>
    have further := (Bytes.cut?_eq_some_iff.mp found).append (later.arriving ++ lost)
    rw [← Bytes.cut?_eq_some_iff, ← List.append_assoc, ← Stream.arriving_of_paused stop,
      Bytes.cut?_eq_some_iff.mpr cut] at further
    cases further
    exact .inr ⟨_, _, rfl, List.flatten_singleton, by rw [Stream.arriving, List.append_assoc]⟩
  | case5 s later stop missing piece held released pieces ending read ih =>
    rw [Stream.arriving_of_paused stop, List.append_assoc] at cut
    have kept := release_append (closing delimiter) s.filled
    have ahead := release_prefix plain (Bytes.cut?_eq_none_iff.mp missing) cut
    rw [← closing_eq, released] at ahead
    rw [released] at kept
    obtain ⟨inner, rfl⟩ := ahead
    rw [← kept, List.append_assoc] at cut
    have behind := cut.drop
    rw [← List.append_assoc] at behind
    have front : (if piece = [] then pieces else piece :: pieces).flatten =
        piece ++ pieces.flatten := by
      split
      · next empty => rw [empty]; rfl
      · rw [List.flatten_cons]
    rcases ih behind with ⟨more, f, same, breaks, short⟩ | ⟨more, rest, same, flat, still⟩
    · rw [read] at same
      cases same
      exact .inl ⟨_, f, rfl, breaks, front ▸ (List.prefix_append_right_inj piece).mpr short⟩
    · rw [read] at same
      cases same
      exact .inr ⟨_, rest, rfl, by rw [front, flat], still⟩

/-- Data of a part that are read to no end break off; they are never too long for the reader. -/
theorem breaksOff_of_readData {name : Option String} {fault : Fault}
    (ended : (readData delimiter name s).2 = .error fault) : fault.BreaksOff := by
  fun_induction readData delimiter name s with
  | case1 s message stop => exact Except.error.inj ended ▸ .failed message
  | case2 s stop piece after found => cases ended
  | case3 s stop missing => exact Except.error.inj ended ▸ .withinPart name
  | case4 s later stop piece after found => cases ended
  | case5 s later stop missing piece held released pieces ending read ih =>
    rw [read] at ih
    exact ih ended

end

/-! ## The whole form -/

/-- A form was to carry parts, but octets were lost before the end of the last one: the reader
learns of it between two parts, or within one of them. -/
inductive Form.CutShort : Form → List Part → Prop
  | between {f : Fault} (breaks : f.BreaksOff) (p : Part) (parts : List Part) :
    CutShort (.fault f) (p :: parts)
  | within {f : Fault} (breaks : f.BreaksOff) {p : Part} {pieces : List Bytes}
    (short : pieces.flatten <+: p.content) (parts : List Part) :
    CutShort (.broken p.readHead pieces f) (p :: parts)
  | part {p : Part} {parts : List Part} {pieces : List Bytes} {rest : Form}
    (content : pieces.flatten = p.content) (others : CutShort rest parts) :
    CutShort (.part p.readHead pieces rest) (p :: parts)

variable {boundary lost : Bytes} {parts later : List Part}

/-- A stream that leads behind a delimiter, but not to the end of the parts that are written
there, is read as cut short. -/
theorem cutShort_readFrom {place : Place} {s : Stream} (once : Bytes.cr ∉ delimiter boundary)
    (some_ : parts ≠ []) (writable : ∀ p ∈ parts ++ later, p.Writable boundary)
    (leads : advance (delimiter boundary) place (s.arriving ++ lost) =
      advanceBehindDelimiter (behind boundary (parts ++ later)))
    (short : (behind boundary later).length < lost.length) :
    (Form.readFrom (delimiter boundary) place s).CutShort parts := by
  induction parts generalizing place s with
  | nil => exact absurd rfl some_
  | cons p parts ih =>
    rw [List.cons_append] at writable leads
    rw [advance_behind writable] at leads
    have legal := writable p (List.mem_cons_self ..)
    have others : ∀ p ∈ parts ++ later, p.Writable boundary := fun p member =>
      writable p (List.mem_cons_of_mem _ member)
    rw [Form.readFrom_eq]
    obtain ⟨f, found, breaks⟩ | ⟨data, found, whole⟩ := findPart_of_lost leads
    · rw [found]
      exact .between breaks p parts
    · rw [found]
      dsimp only
      have cut := legal.firstCut once (behind boundary (parts ++ later))
      rw [← whole] at cut
      obtain ⟨pieces, f, read, breaks, part⟩ | ⟨pieces, rest, read, flat, left⟩ :=
        readData_of_lost p.readHead.name once cut
      · rw [read]
        exact .within breaks part parts
      · rw [read]
        refine .part flat (ih ?_ others (congrArg advanceBehindDelimiter left))
        -- Behind the last part no more than `later` is written, so all of `lost` would fit there.
        rintro rfl
        have room := congrArg List.length left
        rw [List.length_append, List.nil_append] at room
        omega

/-- A body that breaks off before the delimiter behind the last of `parts` is there is read as cut
short. -/
theorem cutShort_read {body : Body} (once : Bytes.cr ∉ delimiter boundary) (some_ : parts ≠ [])
    (writable : ∀ p ∈ parts ++ later, p.Writable boundary)
    (kept : body.arriving <+: encode boundary (parts ++ later))
    (short : body.arriving.length <
      (parts.flatMap (Part.encode boundary) ++ delimiter boundary).length) :
    (Form.read boundary body).CutShort parts := by
  obtain ⟨lost, whole⟩ := kept
  have missing : (behind boundary later).length < lost.length := by
    have lengths := congrArg List.length whole
    rw [encode_append, ← List.append_assoc, List.length_append, List.length_append] at lengths
    omega
  refine cutShort_readFrom once some_ writable ?_ missing
  change advance _ .preamble (body.arriving ++ lost) = _
  rw [whole, encode_eq, advance_delimiter]

end Intake.FormData
