import Intake.FileSystem.Walk

/-!
# The parts of paths

The steps of a path are what stands between its slashes, and joining paths joins their steps
(`steps_join`). In a path that was spelled as a text every part is a text (`text_of_splitAll`).
-/

namespace Intake

/-! ## Splitting -/

namespace Bytes

variable {separator : UInt8} {run left right : Bytes}

theorem splitAll_ne_nil (separator : UInt8) (run : Bytes) : splitAll separator run ≠ [] := by
  cases run with
  | nil => exact List.cons_ne_nil _ _
  | cons b rest =>
    unfold splitAll
    split
    · exact List.cons_ne_nil _ _
    · split <;> exact List.cons_ne_nil _ _

theorem splitAll_of_not_mem (missing : separator ∉ run) : splitAll separator run = [run] := by
  induction run with
  | nil => rfl
  | cons b rest ih =>
    simp only [List.mem_cons, not_or] at missing
    rw [splitAll, if_neg (Ne.symm missing.1), ih missing.2]

/-- A separator splits a run into what it stands between. -/
theorem splitAll_append (separator : UInt8) (left right : Bytes) :
    splitAll separator (left ++ separator :: right) =
      splitAll separator left ++ splitAll separator right := by
  induction left with
  | nil => simp [splitAll]
  | cons b left ih =>
    rw [List.cons_append, splitAll, splitAll, ih]
    split
    · rfl
    · cases parts : splitAll separator left with
      | nil => exact absurd parts (splitAll_ne_nil separator left)
      | cons first more => rfl

theorem not_mem_of_mem_splitAll (member : run ∈ splitAll separator left) : separator ∉ run := by
  induction left generalizing run with
  | nil => rw [List.mem_singleton.mp member]; exact List.not_mem_nil
  | cons b rest ih =>
    unfold splitAll at member
    split at member
    · rcases List.mem_cons.mp member with rfl | later
      · exact List.not_mem_nil
      · exact ih later
    · next differs =>
      cases parts : splitAll separator rest with
      | nil => exact absurd parts (splitAll_ne_nil separator rest)
      | cons first more =>
        rw [parts] at member ih
        rcases List.mem_cons.mp member with rfl | later
        · simp only [List.mem_cons, not_or]
          exact ⟨Ne.symm differs, ih (List.mem_cons_self ..)⟩
        · exact ih (List.mem_cons_of_mem _ later)

/-! ## Texts -/

theorem ofString_ofList (cs : List Char) :
    ofString (String.ofList cs) = cs.flatMap String.utf8EncodeChar := by
  rw [ofString, String.toList_ofList]

/-- Only a slash is encoded with the octet of a slash. -/
theorem slash_not_mem_encode {c : Char} (differs : c ≠ '/') :
    slash ∉ String.utf8EncodeChar c := by
  have value : c.val.toNat ≠ 0x2F := by
    intro same
    apply differs
    rw [← Char.ofNat_toNat c]
    exact congrArg Char.ofNat same
  have octet {n : Nat} (small : n < 256) (other : n ≠ 0x2F) : slash ≠ UInt8.ofNat n := by
    intro same
    have values := congrArg UInt8.toNat same
    rw [UInt8.toNat_ofNat', Nat.mod_eq_of_lt small] at values
    exact other values.symm
  unfold String.utf8EncodeChar
  dsimp only
  split
  · exact fun member => octet (by omega) value (List.mem_singleton.mp member)
  · split
    · simp only [List.mem_cons, List.not_mem_nil, or_false, not_or]
      exact ⟨octet (by omega) (by omega), octet (by omega) (by omega)⟩
    · split
      · simp only [List.mem_cons, List.not_mem_nil, or_false, not_or]
        exact ⟨octet (by omega) (by omega), octet (by omega) (by omega),
          octet (by omega) (by omega)⟩
      · simp only [List.mem_cons, List.not_mem_nil, or_false, not_or]
        exact ⟨octet (by omega) (by omega), octet (by omega) (by omega),
          octet (by omega) (by omega), octet (by omega) (by omega)⟩

/-- Octets in front of the first separator stay in the first part. -/
theorem splitAll_prepend (missing : separator ∉ left) {first : Bytes} {more : List Bytes}
    (parts : splitAll separator right = first :: more) :
    splitAll separator (left ++ right) = (left ++ first) :: more := by
  induction left with
  | nil => exact parts
  | cons b left ih =>
    simp only [List.mem_cons, not_or] at missing
    rw [List.cons_append, splitAll, if_neg (Ne.symm missing.1), ih missing.2, List.cons_append]

/-- Between the slashes of a text stand texts. -/
theorem text_of_splitAll {cs : List Char}
    (member : run ∈ splitAll slash (cs.flatMap String.utf8EncodeChar)) :
    ∃ text : List Char, run = text.flatMap String.utf8EncodeChar := by
  induction cs generalizing run with
  | nil => exact ⟨[], List.mem_singleton.mp member⟩
  | cons c cs ih =>
    rw [List.flatMap_cons] at member
    by_cases same : c = '/'
    · subst same
      rcases List.mem_cons.mp member with rfl | later
      · exact ⟨[], rfl⟩
      · exact ih later
    · cases parts : splitAll slash (cs.flatMap String.utf8EncodeChar) with
      | nil => exact absurd parts (splitAll_ne_nil slash _)
      | cons first more =>
        rw [splitAll_prepend (slash_not_mem_encode same) parts] at member
        rw [parts] at ih
        rcases List.mem_cons.mp member with rfl | later
        · rcases ih (List.mem_cons_self ..) with ⟨text, rfl⟩
          exact ⟨c :: text, rfl⟩
        · exact ih (List.mem_cons_of_mem _ later)

end Bytes

/-! ## Steps -/

namespace FilePath

theorem mem_steps {p : FilePath} {step : Bytes} (member : step ∈ p.steps) :
    step ≠ [] ∧ Bytes.slash ∉ step := by
  rcases List.mem_filter.mp member with ⟨inside, nonempty⟩
  exact ⟨by simpa using nonempty, Bytes.not_mem_of_mem_splitAll inside⟩

/-- A name is a path of one step. -/
theorem steps_name {name : Bytes} (nonempty : name ≠ []) (plain : Bytes.slash ∉ name) :
    (FilePath.mk name).steps = [name] := by
  rw [steps, segments, Bytes.splitAll_of_not_mem plain]
  simp [nonempty]

/-- Joining paths joins their steps. -/
theorem steps_join (p : FilePath) {tail : FilePath} (relative : tail.isAbsolute = false) :
    (p.join tail).steps = p.steps ++ tail.steps := by
  unfold join
  rw [if_neg (by simp [relative])]
  split
  · next open_ =>
    rcases open_ with empty | slash
    · simp [steps, segments, empty, Bytes.splitAll]
    · rcases List.getLast?_eq_some_iff.mp slash with ⟨front, octets⟩
      simp only [steps, segments, octets, List.append_assoc, List.cons_append, List.nil_append,
        Bytes.splitAll_append, List.filter_append]
      simp [Bytes.splitAll]
  · simp only [steps, segments, Bytes.splitAll_append, List.filter_append]

/-- A path that something is put behind starts where it started. -/
theorem isAbsolute_join {p tail : FilePath} (relative : tail.isAbsolute = false)
    (nonempty : p.octets ≠ []) : (p.join tail).isAbsolute = p.isAbsolute := by
  have head (more : Bytes) : (p.octets ++ more).head? = p.octets.head? := by
    cases octets : p.octets with
    | nil => exact absurd octets nonempty
    | cons b rest => rfl
  unfold join
  rw [if_neg (by simp [relative])]
  split <;> simp only [isAbsolute, head]

theorem isAbsolute_name {name : Bytes} (plain : Bytes.slash ∉ name) :
    (FilePath.mk name).isAbsolute = false := by
  cases name with
  | nil => rfl
  | cons b rest =>
    simp only [List.mem_cons, not_or] at plain
    simpa [isAbsolute] using Ne.symm plain.1

/-- Names joined into a path are its steps. -/
theorem steps_ofNames {names : List Bytes}
    (plain : ∀ name ∈ names, name ≠ [] ∧ Bytes.slash ∉ name) :
    (ofNames names).steps = names ∧ (ofNames names).isAbsolute = false := by
  have behind : ∀ p : FilePath, p.isAbsolute = false →
      (names.foldl (fun p name => p.join ⟨name⟩) p).steps = p.steps ++ names ∧
        (names.foldl (fun p name => p.join ⟨name⟩) p).isAbsolute = false := by
    induction names with
    | nil => exact fun p relative => ⟨(List.append_nil _).symm, relative⟩
    | cons name names ih =>
      intro p relative
      rcases plain name (List.mem_cons_self ..) with ⟨nonempty, free⟩
      have open_ := isAbsolute_name free
      have joined : (p.join ⟨name⟩).isAbsolute = false := by
        by_cases empty : p.octets = []
        · simp [join, open_, empty]
        · rw [isAbsolute_join open_ empty, relative]
      obtain ⟨steps, still⟩ :=
        ih (fun other member => plain other (List.mem_cons_of_mem _ member)) _ joined
      refine ⟨?_, still⟩
      rw [List.foldl_cons, steps, steps_join p open_, steps_name nonempty free, List.append_assoc]
      rfl
  rcases behind ⟨[]⟩ rfl with ⟨steps, relative⟩
  exact ⟨steps, relative⟩

/-! ## Components -/

theorem components_eq (p : FilePath) :
    p.components = p.start ++ p.steps.filterMap component? := by
  rw [components, steps, List.filterMap_filter]
  congr 2
  funext segment
  by_cases empty : segment = []
  · simp [empty, component?]
  · simp [empty]

theorem component?_name {step : Bytes} (nonempty : step ≠ [])
    (notHere : FileSystem.isHere step = false) (notUp : FileSystem.isUp step = false) :
    component? step = some (.name step) := by
  simp only [FileSystem.isHere, beq_eq_false_iff_ne] at notHere
  simp only [FileSystem.isUp, beq_eq_false_iff_ne] at notUp
  simp [component?, nonempty, notHere, notUp]

end FilePath

end Intake
