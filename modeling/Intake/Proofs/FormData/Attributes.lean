import Intake.Proofs.FormData.Heads

/-!
# The attributes of a written disposition

The name of a part is read back from the disposition that is written for it (`octets?_name`). So
is the name of its file, unless the text `filename` stands twice in a row within the name of the
part (`octets?_filename`): behind the first of the two, the second is taken for the attribute.
-/

namespace Intake.FormData.Attribute

/-! ## Values -/

/-- Octets that a quoted value can hold as they are. -/
def Unquoted (value : Bytes) : Prop :=
  ∀ b ∈ value, b ≠ Bytes.quote ∧ b ≠ Bytes.backslash

theorem beforeQuote?_eq {value seen : Bytes} (unquoted : Unquoted value)
    (plain : seen.head? ≠ some Bytes.backslash) (rest : Bytes) :
    beforeQuote? seen (value ++ Bytes.quote :: rest) = some (seen.reverse ++ value) := by
  induction value generalizing seen with
  | nil => simp [beforeQuote?, plain]
  | cons b value ih =>
    obtain ⟨notQuote, notBackslash⟩ := unquoted b (List.mem_cons_self ..)
    have plain : (b :: seen).head? ≠ some Bytes.backslash := by simpa using notBackslash
    have later := ih (fun c member => unquoted c (List.mem_cons_of_mem _ member)) plain
    rw [List.cons_append, beforeQuote?, if_neg (fun both => notQuote both.1), later]
    simp

theorem unescape_eq {value : Bytes} (unquoted : Unquoted value) : unescape value = value := by
  fun_induction unescape value with
  | case1 => rfl
  | case2 b => rfl
  | case3 b c rest escaped ih => exact absurd escaped.1 (unquoted b (List.mem_cons_self ..)).2
  | case4 b c rest plain ih =>
    rw [ih fun d member => unquoted d (List.mem_cons_of_mem _ member)]

theorem valueBehind?_quoted {value : Bytes} (unquoted : Unquoted value) (rest : Bytes) :
    valueBehind? (Bytes.equals :: Bytes.quote :: (value ++ Bytes.quote :: rest)) = some value := by
  have nothing : ([] : Bytes).head? ≠ some Bytes.backslash := nofun
  have read := beforeQuote?_eq unquoted nothing rest
  have equals (tail : Bytes) : (Bytes.equals :: tail).dropWhile isSpace = Bytes.equals :: tail :=
    rfl
  have quote (tail : Bytes) : (Bytes.quote :: tail).dropWhile isSpace = Bytes.quote :: tail := rfl
  rw [valueBehind?, equals]
  dsimp only
  rw [if_pos rfl, quote]
  dsimp only
  rw [if_pos rfl, read, Option.map_some, List.reverse_nil, List.nil_append, unescape_eq unquoted]

/-- Nothing but an equals sign may follow an attribute. -/
theorem valueBehind?_eq_none {b : UInt8} {rest : Bytes} (solid : isSpace b = false)
    (other : b ≠ Bytes.equals) : valueBehind? (b :: rest) = none := by
  unfold valueBehind?
  rw [List.dropWhile_cons_of_neg (by simp [solid])]
  exact if_neg other

theorem valueBehind?_of_missing {run : Bytes} (missing : Bytes.equals ∉ run) :
    valueBehind? run = none := by
  unfold valueBehind?
  cases solid : run.dropWhile isSpace with
  | nil => rfl
  | cons b rest =>
    refine if_neg fun same => missing ?_
    rw [← same]
    exact (List.dropWhile_suffix isSpace).subset (solid ▸ List.mem_cons_self ..)

/-! ## The search -/

variable {a : Attribute} {run before after : Bytes}

/-- An attribute is where its text is first found, unless something else precedes it. -/
theorem octets?_of_cut (cut : Bytes.FirstCut a.text run before after) :
    a.octets? run =
      if before.getLast?.all fun b => isSpace b || b == Bytes.semicolon then valueBehind? after
      else a.octets? after := by
  have found := Bytes.cut?_eq_some_iff.mpr cut
  rw [octets?]
  split
  · next missing => rw [found] at missing; cases missing
  · next other => rw [found] at other; cases other; rfl

theorem octets?_of_missing (missing : ¬ a.text <:+: run) : a.octets? run = none := by
  have none_ := Bytes.cut?_eq_none_iff.mpr missing
  rw [octets?]
  split
  · rfl
  · next found => rw [none_] at found; cases found

/-! ## The name -/

theorem octets?_name {name rest : Bytes} (unquoted : Unquoted name) :
    Attribute.name.octets? (dispositionStart ++ (name ++ Bytes.quote :: rest)) = some name := by
  have start : dispositionStart = Bytes.ofString "form-data; " ++
      (Attribute.name.text ++ [Bytes.equals, Bytes.quote]) := by decide
  have missing : ¬ Attribute.name.text <:+: Bytes.ofString "form-data; " := by
    rw [← Bytes.cut?_eq_none_iff]
    decide
  have last : (Bytes.ofString "form-data; ").getLast? = some Bytes.blank := by decide
  have other : ∀ b ∈ (Bytes.ofString "form-data; ").getLast?, b ∉ Attribute.name.text := by
    rw [last]
    rintro b ⟨⟩
    decide
  have cut := Bytes.FirstCut.of_last missing other
    (Bytes.equals :: Bytes.quote :: (name ++ Bytes.quote :: rest))
  have shape : dispositionStart ++ (name ++ Bytes.quote :: rest) =
      Bytes.ofString "form-data; " ++ (Attribute.name.text ++
        (Bytes.equals :: Bytes.quote :: (name ++ Bytes.quote :: rest))) := by
    rw [start]
    simp
  rw [shape, octets?_of_cut cut]
  exact (if_pos (by decide)).trans (valueBehind?_quoted unquoted rest)

/-! ## The name of the file -/

/-- The text of the attribute does not overlap with itself. -/
theorem filename_drop {front rest : Bytes} (whole : filename.text = front ++ rest)
    (nonempty : front ≠ []) (more : rest ≠ []) : ¬ rest <+: filename.text := by
  have none_ : ∀ i < filename.text.length, 0 < i →
      (filename.text.drop i).isPrefixOf filename.text = false := by decide
  intro begins
  have length := congrArg List.length whole
  rw [List.length_append] at length
  have some_ := List.length_pos_iff.mpr nonempty
  have others := List.length_pos_iff.mpr more
  have same : filename.text.drop front.length = rest := by rw [whole, List.drop_left]
  have contrary := none_ front.length (by omega) some_
  rw [same, List.isPrefixOf_iff_prefix.mpr begins] at contrary
  cases contrary

/-- Behind its first occurrence the text stands twice in a row if it comes next, or stands twice
in a row later. -/
theorem doubled_iff (cut : Bytes.FirstCut filename.text run before after) :
    filename.text ++ filename.text <:+: run ↔
      filename.text <+: after ∨ filename.text ++ filename.text <:+: after := by
  have whole := cut.whole
  constructor
  · rintro ⟨front, rest, occurs⟩
    rw [List.append_assoc, List.append_assoc] at occurs
    have late : before.length ≤ front.length := by
      rcases Nat.lt_or_ge front.length before.length with early | late
      · refine absurd ?_ (cut.first front.length early)
        rw [← occurs, List.drop_left]
        exact List.prefix_append _ _
      · exact late
    have ahead : before <+: front ++ (filename.text ++ (filename.text ++ rest)) :=
      ⟨filename.text ++ after, by rw [occurs, whole]⟩
    obtain ⟨between, rfl⟩ := List.prefix_of_prefix_length_le ahead (List.prefix_append _ _) late
    rw [whole, List.append_assoc, List.append_cancel_left_eq] at occurs
    rcases List.append_eq_append_iff.mp occurs with ⟨gap, first, second⟩ | ⟨gap, first, second⟩
    · cases between with
      | nil =>
        rw [List.nil_append] at first
        rw [← first, List.append_cancel_left_eq] at second
        exact .inl ⟨rest, second⟩
      | cons b between =>
        cases gap with
        | nil => exact .inr ⟨[], rest, by simpa using second⟩
        | cons c gap =>
          -- The occurrence would begin within the first one.
          have begins : c :: gap <+: filename.text :=
            List.prefix_of_prefix_length_le ⟨after, second.symm⟩ (List.prefix_append _ _)
              (by rw [first]; simp; omega)
          exact absurd begins (filename_drop first (by simp) (by simp))
    · exact .inr ⟨gap, rest, by rw [second, List.append_assoc, List.append_assoc]⟩
  · rintro (next | ⟨front, rest, later⟩)
    · obtain ⟨rest, rfl⟩ := next
      exact ⟨before, rest, by simp [whole]⟩
    · refine ⟨before ++ (filename.text ++ front), rest, ?_⟩
      rw [whole, ← later]
      simp

variable {written : String} {contentType : Option String}

/-- The name of the file is found where no text that it could be mistaken for precedes it. -/
theorem octets?_dispositionEnd {front : Bytes} (unquoted : Unquoted (Bytes.ofString written))
    (missing : ¬ filename.text <:+: front) :
    filename.octets? (front ++ (PartKind.file written contentType).dispositionEnd) =
      some (Bytes.ofString written) := by
  have gap : ¬ filename.text <:+: front ++ [Bytes.quote, Bytes.semicolon, Bytes.blank] := by
    intro within
    rcases Bytes.infix_of_separator (by decide) within with inside | behind
    · exact missing inside
    · have none_ : Bytes.cut? filename.text [Bytes.semicolon, Bytes.blank] = none := by decide
      exact Bytes.cut?_eq_none_iff.mp none_ behind
  have last : (front ++ [Bytes.quote, Bytes.semicolon, Bytes.blank]).getLast? =
      some Bytes.blank := by
    rw [List.getLast?_append]
    rfl
  have other : ∀ b ∈ (front ++ [Bytes.quote, Bytes.semicolon, Bytes.blank]).getLast?,
      b ∉ filename.text := by
    rw [last]
    rintro b ⟨⟩
    decide
  have cut := Bytes.FirstCut.of_last gap other
    (Bytes.equals :: Bytes.quote :: (Bytes.ofString written ++ [Bytes.quote]))
  have shape : front ++ (PartKind.file written contentType).dispositionEnd =
      front ++ [Bytes.quote, Bytes.semicolon, Bytes.blank] ++ (filename.text ++
        (Bytes.equals :: Bytes.quote :: (Bytes.ofString written ++ [Bytes.quote]))) := by
    simp [PartKind.dispositionEnd]
  rw [shape, octets?_of_cut cut, last]
  exact (if_pos (by decide)).trans (valueBehind?_quoted unquoted [])

theorem length_of_cut (cut : Bytes.FirstCut filename.text run before after) :
    after.length < run.length := by
  rw [cut.whole, List.length_append, List.length_append]
  have nonempty := filename.length_text_pos
  omega

/-- An octet of a name in front of an attribute's text is something else than what may be
there. -/
theorem refused {front : Bytes} {b : UInt8} (inName : InName b ∨ b = Bytes.quote) :
    ((front ++ [b]).getLast?.all fun b => isSpace b || b == Bytes.semicolon) = false := by
  rw [List.getLast?_concat, Option.all_some]
  rcases inName with inName | rfl
  · obtain ⟨-, -, -, -, solid, other⟩ := inName.plain
    simp [solid, other]
  · rfl

/-- What is left of the name of a part does not hide the name of the file, unless it begins with
the text that the attribute is found by, or holds it twice in a row. -/
theorem octets?_behind {left : Bytes} (names : ∀ b ∈ left, InName b)
    (unquoted : Unquoted (Bytes.ofString written)) :
    (filename.text <+: left ∨ filename.text ++ filename.text <:+: left →
      filename.octets? (left ++ (PartKind.file written contentType).dispositionEnd) = none) ∧
    (¬ (filename.text <+: left ∨ filename.text ++ filename.text <:+: left) →
      filename.octets? (left ++ (PartKind.file written contentType).dispositionEnd) =
        some (Bytes.ofString written)) := by
  cases found : Bytes.cut? filename.text left with
  | none =>
    have missing := Bytes.cut?_eq_none_iff.mp found
    refine ⟨fun held => absurd ?_ missing, fun _ => octets?_dispositionEnd unquoted missing⟩
    rcases held with begins | doubled
    · exact begins.isInfix
    · exact (List.prefix_append _ _).isInfix.trans doubled
  | some parts =>
    obtain ⟨before, after⟩ := parts
    have cut := Bytes.cut?_eq_some_iff.mp found
    have whole := cut.whole
    have doubled := doubled_iff cut
    rw [octets?_of_cut (cut.append (PartKind.file written contentType).dispositionEnd)]
    rcases List.eq_nil_or_concat before with rfl | ⟨front, last, rfl⟩
    · have begins : filename.text <+: left := ⟨after, whole.symm⟩
      refine ⟨fun _ => (if_pos rfl).trans ?_, fun none_ => absurd (.inl begins) none_⟩
      cases after with
      | nil => exact valueBehind?_eq_none (by decide) (by decide)
      | cons b rest =>
        have inName : InName b := names b (by rw [whole]; simp)
        exact valueBehind?_eq_none inName.plain.2.2.2.2.1 inName.plain.2.2.1
    · rw [List.concat_eq_append] at cut whole ⊢
      have inName : InName last := names last (by rw [whole]; simp)
      have notFirst : ¬ filename.text <+: left := by
        have first := cut.first 0 (by simp)
        rwa [List.drop_zero] at first
      have shorter := length_of_cut cut
      have later : ∀ b ∈ after, InName b := fun b member =>
        names b (by rw [whole]; simp [member])
      obtain ⟨hidden, seen⟩ := octets?_behind later unquoted
      rw [refused (.inl inName), if_neg Bool.false_ne_true]
      simp only [notFirst, false_or, doubled]
      exact ⟨hidden, seen⟩
termination_by left.length

theorem dispositionStart_eq :
    dispositionStart = Bytes.ofString "form-data; name=" ++ [Bytes.quote] := by decide

theorem not_infix_start : ¬ filename.text <:+: Bytes.ofString "form-data; name=" := by
  rw [← Bytes.cut?_eq_none_iff]
  decide

/-- The name of the file is read back unless the text that it is found by stands twice in a row
in the name of the part. -/
theorem octets?_filename {name : Bytes} (names : ∀ b ∈ name, InName b)
    (unquoted : Unquoted (Bytes.ofString written)) (contentType : Option String) :
    (filename.text ++ filename.text <:+: name →
      filename.octets? (dispositionStart ++
        (name ++ (PartKind.file written contentType).dispositionEnd)) = none) ∧
    (¬ filename.text ++ filename.text <:+: name →
      filename.octets? (dispositionStart ++
        (name ++ (PartKind.file written contentType).dispositionEnd)) =
          some (Bytes.ofString written)) := by
  have plain : Bytes.quote ∉ filename.text := by decide
  cases found : Bytes.cut? filename.text name with
  | none =>
    have missing := Bytes.cut?_eq_none_iff.mp found
    have none_ : ¬ filename.text <:+: dispositionStart ++ name := by
      rw [dispositionStart_eq, List.append_assoc]
      exact fun within => (Bytes.infix_of_separator plain within).elim not_infix_start missing
    refine ⟨fun doubled => absurd ?_ missing, fun _ => ?_⟩
    · exact (List.prefix_append _ _).isInfix.trans doubled
    · rw [← List.append_assoc]
      exact octets?_dispositionEnd unquoted none_
  | some parts =>
    obtain ⟨before, after⟩ := parts
    have cut := Bytes.cut?_eq_some_iff.mp found
    have whole := cut.whole
    have further := (cut.append (PartKind.file written contentType).dispositionEnd).prepend plain
      not_infix_start
    have shape : dispositionStart ++ (name ++ (PartKind.file written contentType).dispositionEnd) =
        Bytes.ofString "form-data; name=" ++ Bytes.quote ::
          (name ++ (PartKind.file written contentType).dispositionEnd) := by
      rw [dispositionStart_eq, List.append_assoc]
      rfl
    have precedes : ∃ front last, Bytes.ofString "form-data; name=" ++ Bytes.quote :: before =
        front ++ [last] ∧ (InName last ∨ last = Bytes.quote) := by
      rcases List.eq_nil_or_concat before with rfl | ⟨front, last, rfl⟩
      · exact ⟨_, _, rfl, .inr rfl⟩
      · rw [List.concat_eq_append] at whole ⊢
        exact ⟨Bytes.ofString "form-data; name=" ++ Bytes.quote :: front, last, by simp,
          .inl (names last (by rw [whole]; simp))⟩
    obtain ⟨front, last, same, inName⟩ := precedes
    rw [shape, octets?_of_cut further, same, refused inName, if_neg Bool.false_ne_true,
      doubled_iff cut]
    exact octets?_behind (fun b member => names b (by rw [whole]; simp [member])) unquoted

/-- Without an equals sign there is no attribute. -/
theorem octets?_eq_none {run : Bytes} (missing : Bytes.equals ∉ run) :
    filename.octets? run = none := by
  cases found : Bytes.cut? filename.text run with
  | none => exact octets?_of_missing (Bytes.cut?_eq_none_iff.mp found)
  | some parts =>
    obtain ⟨before, after⟩ := parts
    have cut := Bytes.cut?_eq_some_iff.mp found
    have behind : Bytes.equals ∉ after := fun member => missing (by rw [cut.whole]; simp [member])
    have shorter := length_of_cut cut
    rw [octets?_of_cut cut]
    split
    · exact valueBehind?_of_missing behind
    · exact octets?_eq_none behind
termination_by run.length

/-- No name of a file is found where none was written. -/
theorem octets?_text {name : Bytes} (names : ∀ b ∈ name, InName b) :
    filename.octets? (dispositionStart ++ (name ++ PartKind.text.dispositionEnd)) = none := by
  have plain : Bytes.quote ∉ filename.text := by decide
  have equals : Bytes.equals ∉ name ++ PartKind.text.dispositionEnd := by
    intro member
    rcases List.mem_append.mp member with inside | ends
    · exact (names _ inside).plain.2.2.1 rfl
    · exact absurd (List.mem_singleton.mp ends) (by decide)
  have shape : dispositionStart ++ (name ++ PartKind.text.dispositionEnd) =
      Bytes.ofString "form-data; name=" ++ Bytes.quote ::
        (name ++ PartKind.text.dispositionEnd) := by
    rw [dispositionStart_eq, List.append_assoc]
    rfl
  rw [shape]
  cases found : Bytes.cut? filename.text (name ++ PartKind.text.dispositionEnd) with
  | none =>
    refine octets?_of_missing fun within => ?_
    exact (Bytes.infix_of_separator plain within).elim not_infix_start
      (Bytes.cut?_eq_none_iff.mp found)
  | some parts =>
    obtain ⟨before, after⟩ := parts
    have cut := Bytes.cut?_eq_some_iff.mp found
    have behind : Bytes.equals ∉ after := fun member => equals (by rw [cut.whole]; simp [member])
    rw [octets?_of_cut (cut.prepend plain not_infix_start)]
    split
    · exact valueBehind?_of_missing behind
    · exact octets?_eq_none behind

end Intake.FormData.Attribute
