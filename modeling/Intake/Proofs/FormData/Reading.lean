import Intake.FormData.Form
import Intake.Proofs.Bytes.Cutting

/-!
# Reading does not depend on how a body is cut into frames

A steady stream is one whose body does not fail. What a reader makes of it is told by the octets
that are still to come alone, whether they are there already or not (`Stream.whole`).

* `advance_append`: more octets lead a reader on from where it starved, and change nothing else.
* `findPart_agrees`: a reader finds what the whole of the octets leads it to.
* `readData_of_cut`: the pieces of a part's data make up what precedes the first closing
  delimiter.
* `findPart_of_missing`, `readData_of_missing`: without a delimiter nothing is found, and the data
  of a part are never whole.
-/

namespace Intake.FormData

/-! ## Steady bodies -/

/-- The connection does not fail. -/
def Body.Steady (body : Body) : Prop :=
  ∀ message, .fail message ∉ body

/-- All octets that are to come. -/
def Stream.whole (s : Stream) : Bytes :=
  s.buffer ++ s.body.octets

theorem Body.Steady.stop_ne_failed {body : Body} (steady : body.Steady) (message : String) :
    body.deliver.2 ≠ .failed message := by
  induction body with
  | nil => simp [deliver]
  | cons event rest ih =>
    cases event with
    | frame octets => exact ih fun message member => steady message (List.mem_cons_of_mem _ member)
    | wait => simp [deliver]
    | fail other => exact absurd (List.mem_cons_self ..) (steady other)

theorem Body.Steady.later {body later : Body} (steady : body.Steady)
    (stop : body.deliver.2 = .paused later) : later.Steady := by
  induction body with
  | nil => cases stop
  | cons event rest ih =>
    have below : Steady rest := fun message member =>
      steady message (List.mem_cons_of_mem _ member)
    cases event with
    | frame octets => exact ih below stop
    | wait => cases stop; exact below
    | fail other => cases stop

theorem Body.octets_of_ended {body : Body} (stop : body.deliver.2 = .ended) :
    body.octets = body.deliver.1 := by
  induction body with
  | nil => rfl
  | cons event rest ih =>
    cases event with
    | frame octets => rw [Body.octets, deliver, ih stop]
    | wait => cases stop
    | fail other => cases stop

theorem Body.octets_of_paused {body later : Body} (stop : body.deliver.2 = .paused later) :
    body.octets = body.deliver.1 ++ later.octets := by
  induction body with
  | nil => cases stop
  | cons event rest ih =>
    cases event with
    | frame octets => rw [Body.octets, deliver, ih stop, List.append_assoc]
    | wait => cases stop; rfl
    | fail other => cases stop

theorem Stream.whole_of_ended {s : Stream} (stop : s.stop = .ended) : s.whole = s.filled := by
  rw [whole, filled_eq, Body.octets_of_ended stop]

theorem Stream.whole_of_paused {s : Stream} {later : Body} (stop : s.stop = .paused later) :
    s.whole = s.filled ++ later.octets := by
  rw [whole, filled_eq, Body.octets_of_paused stop, List.append_assoc]

theorem Stream.filled_prefix {s : Stream} (steady : s.body.Steady) : s.filled <+: s.whole := by
  cases stop : s.stop with
  | ended => exact whole_of_ended stop ▸ List.prefix_refl _
  | paused later =>
    rw [whole_of_paused stop]
    exact List.prefix_append ..
  | failed message => exact absurd stop (steady.stop_ne_failed message)

/-! ## More octets -/

/-- What more octets make of an advance. -/
def Advance.further (delimiter more : Bytes) : Advance → Advance
  | .starved place kept => advance delimiter place (kept ++ more)
  | .part head data => .part head (data ++ more)
  | .closed => .closed
  | .fault f => .fault f

variable (delimiter buffer more : Bytes)

theorem advanceHead_append :
    advanceHead (buffer ++ more) = (advanceHead buffer).further delimiter more := by
  cases found : Bytes.cut? blankLine buffer with
  | none =>
    have starves : advanceHead buffer = .starved .head buffer := by rw [advanceHead, found]
    rw [starves]
    rfl
  | some parts =>
    obtain ⟨block, data⟩ := parts
    have further :=
      Bytes.cut?_eq_some_iff.mpr ((Bytes.cut?_eq_some_iff.mp found).append more)
    rw [advanceHead, advanceHead, found, further]
    dsimp only
    cases PartHead.parse (block ++ blankLine) <;> rfl

theorem dropWhile_append_of_cons {p : UInt8 → Bool} {b : UInt8} {rest : Bytes}
    (h : buffer.dropWhile p = b :: rest) :
    (buffer ++ more).dropWhile p = b :: rest ++ more := by
  rw [List.dropWhile_append, h]
  rfl

theorem advanceLineEnd_append :
    advanceLineEnd (buffer ++ more) = (advanceLineEnd buffer).further delimiter more := by
  cases few : buffer.dropWhile HeaderBlock.isPadding with
  | nil =>
    have starves : advanceLineEnd buffer = .starved .lineEnd [] := by rw [advanceLineEnd, few]
    rw [starves, Advance.further, advance, advanceLineEnd, advanceLineEnd, List.dropWhile_append,
      few]
    rfl
  | cons a rest =>
    have on := dropWhile_append_of_cons buffer more few
    cases rest with
    | nil =>
      have starves : advanceLineEnd buffer = .starved .lineEnd [a] := by
        rw [advanceLineEnd, few]
      have stays : ([a] ++ more).dropWhile HeaderBlock.isPadding = [a] ++ more := by
        have first : HeaderBlock.isPadding a = false := by
          have head := List.head?_dropWhile_not HeaderBlock.isPadding buffer
          rw [few] at head
          simpa using head
        rw [List.cons_append, List.dropWhile_cons, first]
        rfl
      rw [starves, Advance.further, advance, advanceLineEnd, advanceLineEnd, on, stays]
    | cons b rest =>
      rw [advanceLineEnd, advanceLineEnd, few, on]
      dsimp only [List.cons_append]
      split
      · exact advanceHead_append delimiter rest more
      · rfl

theorem advanceBehindDelimiter_append :
    advanceBehindDelimiter (buffer ++ more) =
      (advanceBehindDelimiter buffer).further delimiter more := by
  match buffer with
  | [] => rfl
  | [a] => rfl
  | a :: b :: rest =>
    have on := advanceLineEnd_append delimiter (a :: b :: rest) more
    rw [advanceBehindDelimiter]
    dsimp only [List.cons_append] at on ⊢
    rw [advanceBehindDelimiter]
    split
    · rfl
    · exact on

/-- More octets lead a reader on from where it starved, and change nothing else. -/
theorem advance_append (place : Place) :
    advance delimiter place (buffer ++ more) =
      (advance delimiter place buffer).further delimiter more := by
  cases place with
  | head => exact advanceHead_append delimiter buffer more
  | lineEnd => exact advanceLineEnd_append delimiter buffer more
  | behindDelimiter => exact advanceBehindDelimiter_append delimiter buffer more
  | preamble =>
    change advancePreamble delimiter (buffer ++ more) =
      (advancePreamble delimiter buffer).further delimiter more
    cases found : Bytes.cut? delimiter buffer with
    | none =>
      have starves : advancePreamble delimiter buffer = .starved .preamble buffer := by
        rw [advancePreamble, found]
      rw [starves]
      rfl
    | some parts =>
      obtain ⟨front, rest⟩ := parts
      have further :=
        Bytes.cut?_eq_some_iff.mpr ((Bytes.cut?_eq_some_iff.mp found).append more)
      rw [advancePreamble, advancePreamble, found, further]
      exact advanceBehindDelimiter_append delimiter rest more

/-- Behind the first delimiter no reader looks for it again. -/
theorem advance_ne_preamble {delimiter buffer kept : Bytes} {place : Place}
    (behind : place ≠ .preamble) : advance delimiter place buffer ≠ .starved .preamble kept := by
  have ofHead (run : Bytes) : advanceHead run ≠ .starved .preamble kept := by
    unfold advanceHead
    split
    · simp
    · split <;> simp
  have ofLineEnd (run : Bytes) : advanceLineEnd run ≠ .starved .preamble kept := by
    unfold advanceLineEnd
    split
    · split
      · exact ofHead _
      · simp
    · simp
  cases place with
  | preamble => exact absurd rfl behind
  | head => exact ofHead buffer
  | lineEnd => exact ofLineEnd buffer
  | behindDelimiter =>
    change advanceBehindDelimiter buffer ≠ .starved .preamble kept
    unfold advanceBehindDelimiter
    split
    · split
      · simp
      · exact ofLineEnd _
    · simp

/-! ## The next part -/

/-- A reader finds what an advance over the whole of the octets says. -/
inductive Found.Agrees : Found → Advance → Prop
  | part (head : PartHead) {data : Stream} {octets : Bytes} (steady : data.body.Steady)
      (whole : data.whole = octets) : Agrees (.part head data) (.part head octets)
  | closed : Agrees .closed .closed
  | fault (f : Fault) : Agrees (.fault f) (.fault f)
  | starved (place : Place) (kept : Bytes) :
    Agrees (.fault .incompleteStream) (.starved place kept)

/-- A reader finds what the whole of the octets leads it to, if the first delimiter is there
before it has to wait. -/
theorem findPart_agrees {delimiter : Bytes} {place : Place} {s : Stream} (steady : s.body.Steady)
    (begun : ∀ kept, advance delimiter place s.filled ≠ .starved .preamble kept) :
    (findPart delimiter place s).Agrees (advance delimiter place s.whole) := by
  fun_induction findPart delimiter place s with
  | case1 place s message stop => exact absurd stop (steady.stop_ne_failed message)
  | case2 place s stop place' kept found =>
    rw [Stream.whole_of_ended stop, found]
    exact .starved place' kept
  | case3 place s stop head data found =>
    rw [Stream.whole_of_ended stop, found]
    exact .part head (fun _ => List.not_mem_nil) (List.append_nil data)
  | case4 place s stop found =>
    rw [Stream.whole_of_ended stop, found]
    exact .closed
  | case5 place s stop f found =>
    rw [Stream.whole_of_ended stop, found]
    exact .fault f
  | case6 place s later stop kept found => exact absurd found (begun kept)
  | case7 place s later stop kept found => exact absurd found (begun kept)
  | case8 place s later stop kept found => exact absurd found (begun kept)
  | case9 place s later stop place' kept behind found ih =>
    rw [Stream.whole_of_paused stop, advance_append, found]
    exact ih (steady.later stop) fun kept => advance_ne_preamble behind
  | case10 place s later stop head data found =>
    rw [Stream.whole_of_paused stop, advance_append, found]
    exact .part head (steady.later stop) rfl
  | case11 place s later stop found =>
    rw [Stream.whole_of_paused stop, advance_append, found]
    exact .closed
  | case12 place s later stop f found =>
    rw [Stream.whole_of_paused stop, advance_append, found]
    exact .fault f

/-! ## The data of a part -/

/-- The run from the last carriage return on holds no other one. -/
theorem fromLastCr_append (front : Bytes) {tail : Bytes} (once : Bytes.cr ∉ tail) :
    fromLastCr (front ++ Bytes.cr :: tail) = some (Bytes.cr :: tail) := by
  have without : fromLastCr tail = none := by
    induction tail with
    | nil => rfl
    | cons b tail ih =>
      simp only [List.mem_cons, not_or] at once
      rw [fromLastCr, ih once.2]
      exact if_neg (Ne.symm once.1)
  induction front with
  | nil => rw [List.nil_append, fromLastCr, without]; rfl
  | cons b front ih => rw [List.cons_append, fromLastCr, ih]

theorem suffix_of_fromLastCr {run tail : Bytes} (h : fromLastCr run = some tail) :
    tail <:+ run := by
  induction run with
  | nil => cases h
  | cons b run ih =>
    rw [fromLastCr] at h
    split at h
    · next later found =>
      cases h
      exact (ih found).trans (List.suffix_cons b run)
    · split at h
      · cases h
        exact List.suffix_refl _
      · cases h

theorem heldBack_suffix (closing buffer : Bytes) : heldBack closing buffer <:+ buffer := by
  unfold heldBack
  split
  · next tail found =>
    split
    · exact (suffix_of_fromLastCr found).trans (List.drop_suffix ..)
    · exact List.nil_suffix
  · exact List.nil_suffix

/-- Nothing is lost when a buffer is released. -/
theorem release_append (closing buffer : Bytes) :
    (release closing buffer).1 ++ (release closing buffer).2 = buffer := by
  obtain ⟨front, whole⟩ := heldBack_suffix closing buffer
  rw [release]
  dsimp only
  generalize heldBack closing buffer = held at whole
  rw [← whole, List.length_append, Nat.add_sub_cancel, List.take_left]

/-- The start of a closing delimiter at the end of a buffer is held back. -/
theorem heldBack_append (front : Bytes) {rest start : Bytes} (once : Bytes.cr ∉ rest)
    (begins : start <+: rest) (short : start.length < rest.length) :
    heldBack (Bytes.cr :: rest) (front ++ Bytes.cr :: start) = Bytes.cr :: start := by
  have plain : Bytes.cr ∉ start := fun member => once (begins.subset member)
  have within : (front ++ Bytes.cr :: start).length - ((Bytes.cr :: rest).length - 1) ≤
      front.length := by
    simp only [List.length_append, List.length_cons]
    omega
  have prefixed : (Bytes.cr :: start).isPrefixOf (Bytes.cr :: rest) = true :=
    List.isPrefixOf_iff_prefix.mpr (List.cons_prefix_cons.mpr ⟨rfl, begins⟩)
  unfold heldBack
  rw [List.drop_append_of_le_length within, fromLastCr_append _ plain]
  exact if_pos prefixed

/-- What is released of a buffer without a closing delimiter precedes the one that comes. -/
theorem release_prefix {rest buffer more content after : Bytes} (once : Bytes.cr ∉ rest)
    (missing : ¬ Bytes.cr :: rest <:+: buffer)
    (cut : Bytes.FirstCut (Bytes.cr :: rest) (buffer ++ more) content after) :
    (release (Bytes.cr :: rest) buffer).1 <+: content := by
  have ahead : content <+: buffer ++ more := ⟨_, cut.whole.symm⟩
  rcases Nat.lt_or_ge content.length buffer.length with inside | beyond
  · obtain ⟨left, rfl⟩ :=
      List.prefix_of_prefix_length_le ahead (List.prefix_append _ _) (Nat.le_of_lt inside)
    have closes := cut.whole
    rw [List.append_assoc, List.append_cancel_left_eq] at closes
    rcases Nat.lt_or_ge left.length (Bytes.cr :: rest).length with short | long
    · have begins : left <+: Bytes.cr :: rest :=
        List.prefix_of_prefix_length_le ⟨more, closes⟩ (List.prefix_append _ _)
          (Nat.le_of_lt short)
      cases left with
      | nil => simp at inside
      | cons b start =>
        obtain ⟨rfl, starts⟩ := List.cons_prefix_cons.mp begins
        have whole : (release (Bytes.cr :: rest) (content ++ Bytes.cr :: start)).1 = content := by
          rw [release, heldBack_append content once starts (Nat.lt_of_succ_lt_succ short)]
          dsimp only
          rw [List.length_append, Nat.add_sub_cancel, List.take_left]
        exact ⟨[], by rw [whole, List.append_nil]⟩
    · have occurs : Bytes.cr :: rest <+: left :=
        List.prefix_of_prefix_length_le ⟨after, closes.symm⟩ (List.prefix_append _ _) long
      exact absurd (occurs.isInfix.trans (List.suffix_append content left).isInfix) missing
  · have whole : buffer <+: content :=
      List.prefix_of_prefix_length_le (List.prefix_append _ _) ahead beyond
    exact List.IsPrefix.trans ⟨_, release_append _ buffer⟩ whole

theorem closing_eq (delimiter : Bytes) :
    closing delimiter = Bytes.cr :: Bytes.lf :: delimiter := rfl

/-- What closes a part holds one carriage return only, at its front. -/
theorem cr_not_mem_lf_cons {delimiter : Bytes} (once : Bytes.cr ∉ delimiter) :
    Bytes.cr ∉ Bytes.lf :: delimiter := by
  rw [List.mem_cons, not_or]
  exact ⟨by decide, once⟩

/-- The pieces of a part's data make up what precedes the first closing delimiter, and the form
is read on behind it. -/
theorem readData_of_cut {delimiter content after : Bytes} {s : Stream} (name : Option String)
    (once : Bytes.cr ∉ delimiter) (steady : s.body.Steady)
    (cut : Bytes.FirstCut (closing delimiter) s.whole content after) :
    ∃ pieces rest, readData delimiter name s = (pieces, .ok rest) ∧ pieces.flatten = content ∧
      rest.body.Steady ∧ rest.whole = after := by
  have plain := cr_not_mem_lf_cons once
  fun_induction readData delimiter name s generalizing content with
  | case1 s message stop => exact absurd stop (steady.stop_ne_failed message)
  | case2 s stop piece behind found =>
    rw [Stream.whole_of_ended stop, ← Bytes.cut?_eq_some_iff, found] at cut
    cases cut
    exact ⟨_, _, rfl, List.flatten_singleton, fun _ => List.not_mem_nil, List.append_nil _⟩
  | case3 s stop found =>
    rw [Stream.whole_of_ended stop, ← Bytes.cut?_eq_some_iff, found] at cut
    cases cut
  | case4 s later stop piece behind found =>
    have further := (Bytes.cut?_eq_some_iff.mp found).append later.octets
    rw [← Bytes.cut?_eq_some_iff, ← Stream.whole_of_paused stop,
      Bytes.cut?_eq_some_iff.mpr cut] at further
    cases further
    exact ⟨_, _, rfl, List.flatten_singleton, steady.later stop, rfl⟩
  | case5 s later stop missing piece held released pieces ending read ih =>
    rw [Stream.whole_of_paused stop] at cut
    have kept := release_append (closing delimiter) s.filled
    have ahead := release_prefix plain (Bytes.cut?_eq_none_iff.mp missing) cut
    rw [← closing_eq, released] at ahead
    rw [released] at kept
    obtain ⟨later_content, rfl⟩ := ahead
    rw [← kept, List.append_assoc] at cut
    obtain ⟨more, rest, same, flat, still⟩ := ih (steady.later stop) cut.drop
    rw [read] at same
    cases same
    refine ⟨_, rest, rfl, ?_, still⟩
    split
    · next empty => rw [flat, empty]; rfl
    · rw [List.flatten_cons, flat]

/-! ## Delimiters that do not come -/

/-- A reader that looks for a delimiter that does not come is led nowhere. -/
theorem advance_of_missing {delimiter : Bytes} {s : Stream} (steady : s.body.Steady)
    (missing : ¬ delimiter <:+: s.whole) :
    advance delimiter .preamble s.filled = .starved .preamble s.filled := by
  have nowhere : ¬ delimiter <:+: s.filled := by
    intro within
    exact missing (within.trans (Stream.filled_prefix steady).isInfix)
  change advancePreamble delimiter s.filled = _
  rw [advancePreamble, Bytes.cut?_eq_none_iff.mpr nowhere]

/-- Where no delimiter comes there is no form. -/
theorem findPart_of_missing {delimiter : Bytes} {place : Place} {s : Stream}
    (front : place = .preamble) (steady : s.body.Steady) (missing : ¬ delimiter <:+: s.whole) :
    findPart delimiter place s = .fault .incompleteStream := by
  have starves := advance_of_missing steady missing
  rw [← front] at starves
  fun_induction findPart delimiter place s with
  | case1 place s message stop => exact absurd stop (steady.stop_ne_failed message)
  | case2 => rfl
  | case3 place s stop head data found => rw [found] at starves; cases starves
  | case4 place s stop found => rw [found] at starves; cases starves
  | case5 place s stop f found => rw [found] at starves; cases starves
  | case6 place s later stop kept found message again =>
    exact absurd again ((steady.later stop).stop_ne_failed message)
  | case7 => rfl
  | case8 place s later stop kept found evenLater again ih =>
    rw [found] at starves
    cases starves
    have same : (Stream.mk (Stream.mk s.filled later).filled evenLater).whole = s.whole :=
      (Stream.whole_of_paused again).symm.trans (Stream.whole_of_paused stop).symm
    have still : evenLater.Steady := (steady.later stop).later again
    rw [← same] at missing
    exact ih rfl still missing (advance_of_missing still missing)
  | case9 place s later stop place' kept behind found ih =>
    rw [found] at starves
    cases starves
    exact absurd front behind
  | case10 place s later stop head data found => rw [found] at starves; cases starves
  | case11 place s later stop found => rw [found] at starves; cases starves
  | case12 place s later stop f found => rw [found] at starves; cases starves

/-- Where no closing delimiter comes the data of a part break off. -/
theorem readData_of_missing {delimiter : Bytes} {s : Stream} (name : Option String)
    (steady : s.body.Steady) (missing : ¬ closing delimiter <:+: s.whole) :
    ∃ pieces, readData delimiter name s = (pieces, .error (.incompleteField name)) := by
  fun_induction readData delimiter name s with
  | case1 s message stop => exact absurd stop (steady.stop_ne_failed message)
  | case2 s stop piece behind found =>
    have within := (Bytes.cut?_eq_some_iff.mp found).isInfix
    exact absurd (within.trans (Stream.filled_prefix steady).isInfix) missing
  | case3 s stop found => exact ⟨_, rfl⟩
  | case4 s later stop piece behind found =>
    have within := (Bytes.cut?_eq_some_iff.mp found).isInfix
    exact absurd (within.trans (Stream.filled_prefix steady).isInfix) missing
  | case5 s later stop _ piece held released pieces ending read ih =>
    have kept := release_append (closing delimiter) s.filled
    rw [released] at kept
    have further : ¬ closing delimiter <:+: (Stream.mk held later).whole := by
      intro within
      apply missing
      rw [Stream.whole_of_paused stop, ← kept, List.append_assoc]
      exact within.trans (List.suffix_append ..).isInfix
    obtain ⟨more, same⟩ := ih (steady.later stop) further
    rw [read] at same
    cases same
    exact ⟨_, rfl⟩

/-! ## Forms -/

namespace Form

variable (delimiter : Bytes) (place : Place) (s : Stream)

/-- A form is read part by part. -/
theorem readFrom_eq : readFrom delimiter place s =
    match findPart delimiter place s with
    | .closed => .closed
    | .fault f => .fault f
    | .part head data =>
      match readData delimiter head.name data with
      | (pieces, .error f) => .broken head pieces f
      | (pieces, .ok rest) => .part head pieces (readFrom delimiter .behindDelimiter rest) := by
  rw [readFrom]
  split
  · next found => rw [found]
  · next found => rw [found]
  · next found =>
    rw [found]
    split
    · next read => dsimp only; rw [read]
    · next read => dsimp only; rw [read]

end Form

end Intake.FormData
