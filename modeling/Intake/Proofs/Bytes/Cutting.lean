import Intake.Bytes

/-!
# Cutting at the first occurrence

`FirstCut` says that a needle occurs behind `before` and nowhere earlier, which is what cutting
finds (`cut?_eq_some_iff`). More octets behind a run do not move its first cut
(`FirstCut.append`), and neither does taking away octets in front of it (`FirstCut.drop`).
-/

namespace Intake.Bytes

variable {needle run before after more : Bytes}

theorem strip?_eq_some_iff {rest : Bytes} : strip? needle run = some rest ↔ run = needle ++ rest :=
  ⟨eq_append_of_strip?, fun whole => whole ▸ strip?_append needle rest⟩

theorem cutBehind_eq (needle seen run : Bytes) :
    cutBehind needle seen run =
      (cut? needle run).map fun parts => (seen.reverse ++ parts.1, parts.2) := by
  unfold cut?
  induction run generalizing seen with
  | nil => cases empty : needle.isEmpty <;> simp [cutBehind, empty]
  | cons b run ih =>
    rw [cutBehind, cutBehind]
    cases strip? needle (b :: run) with
    | some rest => simp
    | none =>
      dsimp only
      rw [ih (b :: seen), ih [b], Option.map_map]
      simp [Function.comp_def]

/-- A cut is at the front of a run or within what follows its first octet. -/
theorem cut?_cons (needle : Bytes) (b : UInt8) (run : Bytes) :
    cut? needle (b :: run) =
      match strip? needle (b :: run) with
      | some rest => some ([], rest)
      | none => (cut? needle run).map fun parts => (b :: parts.1, parts.2) := by
  rw [cut?, cutBehind]
  cases strip? needle (b :: run) with
  | some rest => rfl
  | none => exact cutBehind_eq needle [b] run

/-- The first occurrence of `needle` in `run` lies behind `before`. -/
structure FirstCut (needle run before after : Bytes) : Prop where
  whole : run = before ++ (needle ++ after)
  first : ∀ i < before.length, ¬ needle <+: run.drop i

theorem FirstCut.here (needle after : Bytes) : FirstCut needle (needle ++ after) [] after where
  whole := rfl
  first := fun _ inside => absurd inside (Nat.not_lt_zero _)

theorem cut?_eq_some_iff : cut? needle run = some (before, after) ↔
    FirstCut needle run before after := by
  induction run generalizing before with
  | nil =>
    rw [cut?, cutBehind]
    constructor
    · intro h
      split at h
      · next empty =>
        cases h
        rw [List.isEmpty_iff.mp empty]
        exact .here [] []
      · cases h
    · intro cut
      have parts := cut.whole.symm
      simp only [List.append_eq_nil_iff] at parts
      rw [parts.1, parts.2.1, parts.2.2]
      rfl
  | cons b run ih =>
    rw [cut?_cons]
    cases strips : strip? needle (b :: run) with
    | some rest =>
      have whole := strip?_eq_some_iff.mp strips
      simp only [Option.some.injEq, Prod.mk.injEq]
      constructor
      · rintro ⟨rfl, rfl⟩
        exact whole ▸ .here needle rest
      · intro cut
        cases before with
        | nil =>
          have same := cut.whole
          rw [List.nil_append, whole] at same
          exact ⟨rfl, List.append_cancel_left same⟩
        | cons c inner => exact absurd ⟨rest, whole.symm⟩ (cut.first 0 (Nat.succ_pos _))
    | none =>
      have missing : ¬ needle <+: b :: run := by
        rintro ⟨rest, whole⟩
        rw [strip?_eq_some_iff.mpr whole.symm] at strips
        cases strips
      simp only [Option.map_eq_some_iff, Prod.mk.injEq, Prod.exists]
      constructor
      · rintro ⟨inner, _, found, rfl, rfl⟩
        have cut := ih.mp found
        refine ⟨by rw [cut.whole]; rfl, fun i inside => ?_⟩
        cases i with
        | zero => exact missing
        | succ i => exact cut.first i (Nat.lt_of_succ_lt_succ inside)
      · intro cut
        cases before with
        | nil => exact absurd ⟨after, cut.whole.symm⟩ missing
        | cons c inner =>
          have parts := cut.whole
          rw [List.cons_append, List.cons.injEq] at parts
          rcases parts with ⟨rfl, rest⟩
          exact ⟨inner, after, ih.mpr ⟨rest, fun i inside =>
            cut.first (i + 1) (Nat.succ_lt_succ inside)⟩, rfl, rfl⟩

theorem cut?_eq_none_iff : cut? needle run = none ↔ ¬ needle <:+: run := by
  induction run with
  | nil =>
    rw [cut?, cutBehind, List.infix_nil]
    cases needle <;> simp
  | cons b run ih =>
    rw [cut?_cons, List.infix_cons_iff]
    cases strips : strip? needle (b :: run) with
    | some rest =>
      have front : needle <+: b :: run := ⟨rest, (strip?_eq_some_iff.mp strips).symm⟩
      simp [front]
    | none =>
      have missing : ¬ needle <+: b :: run := by
        rintro ⟨rest, whole⟩
        rw [strip?_eq_some_iff.mpr whole.symm] at strips
        cases strips
      simp [missing, ih]

/-- What does not hold a separator stands on one side of it. -/
theorem infix_of_separator {b : UInt8} {left right : Bytes} (other : b ∉ needle)
    (within : needle <:+: left ++ b :: right) : needle <:+: left ∨ needle <:+: right := by
  rcases within with ⟨front, rest, occurs⟩
  rcases List.append_eq_append_iff.mp occurs with ⟨more, inLeft, -⟩ | ⟨more, ends, behind⟩
  · exact .inl ⟨front, more, inLeft.symm⟩
  · cases more with
    | nil => exact .inl ⟨front, [], by simpa using ends⟩
    | cons c more =>
      rcases List.cons.inj behind with ⟨rfl, rfl⟩
      rcases List.append_eq_append_iff.mp ends with ⟨start, -, holds⟩ | ⟨start, -, holds⟩
      · exact absurd (holds ▸ List.mem_append_right _ (List.mem_cons_self ..)) other
      · cases start with
        | nil =>
          rw [List.nil_append] at holds
          exact absurd (holds ▸ List.mem_cons_self ..) other
        | cons d start =>
          rcases List.cons.inj holds with ⟨rfl, rfl⟩
          exact .inr ⟨start, rest, rfl⟩

namespace FirstCut

theorem isInfix (cut : FirstCut needle run before after) : needle <:+: run :=
  ⟨before, after, by rw [cut.whole, List.append_assoc]⟩

/-- What comes later does not move the first cut. -/
theorem append (cut : FirstCut needle run before after) (more : Bytes) :
    FirstCut needle (run ++ more) before (after ++ more) where
  whole := by rw [cut.whole, List.append_assoc, List.append_assoc]
  first := by
    intro i inside front
    have long := congrArg List.length cut.whole
    simp only [List.length_append] at long
    have fits : i ≤ run.length := by omega
    rw [List.drop_append_of_le_length fits] at front
    refine cut.first i inside (List.prefix_of_prefix_length_le front (List.prefix_append _ more) ?_)
    rw [List.length_drop]
    omega

/-- What is taken away in front of the first cut does not move it. -/
theorem drop {front : Bytes} (cut : FirstCut needle (front ++ run) (front ++ before) after) :
    FirstCut needle run before after where
  whole := by
    have same := cut.whole
    rw [List.append_assoc] at same
    exact List.append_cancel_left same
  first := by
    intro i inside occurs
    refine cut.first (front.length + i) (by rw [List.length_append]; omega) ?_
    rw [List.drop_append, List.drop_eq_nil_of_le (Nat.le_add_right ..), List.nil_append,
      Nat.add_sub_cancel_left]
    exact occurs

/-- What stands in front of a separator and does not hold the needle does not matter. -/
theorem prepend {b : UInt8} {left : Bytes} (other : b ∉ needle) (missing : ¬ needle <:+: left)
    (cut : FirstCut needle run before after) :
    FirstCut needle (left ++ b :: run) (left ++ b :: before) after where
  whole := by rw [cut.whole, List.append_assoc, List.cons_append]
  first := by
    intro i inside occurs
    rcases Nat.lt_or_ge left.length i with beyond | early
    · rcases Nat.exists_eq_add_of_lt beyond with ⟨j, rfl⟩
      have shape : (left ++ b :: run).drop (left.length + j + 1) = run.drop j := by
        rw [List.drop_append, List.drop_eq_nil_of_le (by omega), List.nil_append,
          show left.length + j + 1 - left.length = j + 1 by omega, List.drop_succ_cons]
      rw [shape] at occurs
      rw [List.length_append, List.length_cons] at inside
      exact cut.first j (by omega) occurs
    · rw [List.drop_append_of_le_length early] at occurs
      rcases Nat.lt_or_ge (left.drop i).length needle.length with long | short
      · obtain ⟨tail, same⟩ :=
          List.prefix_of_prefix_length_le (List.prefix_append _ _) occurs (Nat.le_of_lt long)
        rw [← same, List.prefix_append_right_inj] at occurs
        cases tail with
        | nil => rw [← same, List.append_nil] at long; exact Nat.lt_irrefl _ long
        | cons c tail =>
          rcases List.cons_prefix_cons.mp occurs with ⟨rfl, -⟩
          exact other (same ▸ List.mem_append_right _ (List.mem_cons_self ..))
      · have within : needle <+: left.drop i :=
          List.prefix_of_prefix_length_le occurs (List.prefix_append _ _) short
        exact missing (within.isInfix.trans (List.drop_suffix i left).isInfix)

/-- A needle behind octets that do not hold it, and the last of which is none of its own, is
found there. -/
theorem of_last (missing : ¬ needle <:+: before)
    (last : ∀ b ∈ before.getLast?, b ∉ needle) (after : Bytes) :
    FirstCut needle (before ++ (needle ++ after)) before after where
  whole := rfl
  first := by
    intro i inside occurs
    rw [List.drop_append_of_le_length (Nat.le_of_lt inside)] at occurs
    rcases Nat.lt_or_ge (before.drop i).length needle.length with short | long
    · -- Then all that is left of `before` begins the needle.
      have begins : before.drop i <+: needle :=
        List.prefix_of_prefix_length_le (List.prefix_append _ _) occurs (Nat.le_of_lt short)
      have nonempty : before ≠ [] := List.ne_nil_of_length_pos (by omega)
      have ends : before.getLast nonempty ∈ before.drop i := by
        rw [← List.getLast_drop (by simpa using inside)]
        exact List.getLast_mem _
      exact last _ (List.getLast?_eq_some_getLast nonempty) (begins.subset ends)
    · have within : needle <+: before.drop i :=
        List.prefix_of_prefix_length_le occurs (List.prefix_append _ _) long
      exact missing (within.isInfix.trans (List.drop_suffix i before).isInfix)

/-- A needle that has its first octet nowhere else is found behind octets that do not hold it. -/
theorem of_head {b : UInt8} {rest : Bytes} (missing : ¬ b :: rest <:+: before) (once : b ∉ rest)
    (after : Bytes) : FirstCut (b :: rest) (before ++ (b :: rest ++ after)) before after where
  whole := rfl
  first := by
    intro i inside occurs
    rw [List.drop_append_of_le_length (Nat.le_of_lt inside)] at occurs
    rcases Nat.lt_or_ge (before.drop i).length (b :: rest).length with short | long
    · -- Then the needle behind `before` begins within the one that is said to occur earlier.
      obtain ⟨tail, same⟩ :=
        List.prefix_of_prefix_length_le (List.prefix_append _ _) occurs (Nat.le_of_lt short)
      cases left : before.drop i with
      | nil => exact absurd (List.drop_eq_nil_iff.mp left) (Nat.not_le.mpr inside)
      | cons c more =>
        rw [left, List.cons_append, List.cons.injEq] at same
        rcases same with ⟨rfl, rfl⟩
        rw [left, ← List.cons_append, List.append_assoc, List.prefix_append_right_inj] at occurs
        cases tail with
        | nil =>
          rw [left, List.append_nil] at short
          exact Nat.lt_irrefl _ short
        | cons d tail =>
          rcases List.cons_prefix_cons.mp occurs with ⟨rfl, -⟩
          exact once (List.mem_append_right _ (List.mem_cons_self ..))
    · have within : b :: rest <+: before.drop i :=
        List.prefix_of_prefix_length_le occurs (List.prefix_append _ _) long
      exact missing (within.isInfix.trans (List.drop_suffix i before).isInfix)

end FirstCut

end Intake.Bytes
