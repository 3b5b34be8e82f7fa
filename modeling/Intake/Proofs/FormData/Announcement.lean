import Intake.FormData.MediaType
import Intake.Proofs.FormData.Heads
import Mathlib.Data.List.TakeWhile

/-!
# The boundary that is announced

A boundary of ASCII letters, digits and hyphens is read back from the header that announces the
form (`boundary_of_announcement`). Whatever a header announces, its boundary stands in the header,
so that no line ends in a delimiter (`cr_not_mem_delimiter_of_boundary`).
-/

namespace Intake.FormData

/-- A boundary that can be announced: ASCII letters, digits and hyphens. -/
structure Announceable (boundary : String) : Prop where
  nonempty : boundary ≠ ""
  plain : ∀ c ∈ boundary.toList, isBoundaryChar c = true

namespace Announceable

variable {boundary : String}

theorem inName (h : Announceable boundary) {b : UInt8} (member : b ∈ Bytes.ofString boundary) :
    InName b :=
  inName_of_mem (fun c inside => isNameChar_of_isBoundaryChar (h.plain c inside)) member

/-- No line ends within a delimiter. -/
theorem cr_not_mem_delimiter (h : Announceable boundary) :
    Bytes.cr ∉ delimiter (Bytes.ofString boundary) := by
  simp only [delimiter, List.mem_cons, not_or]
  exact ⟨by decide, by decide, fun member => (h.inName member).plain.2.2.2.1 rfl⟩

end Announceable

namespace MediaType

/-- A token at the end of a media type is the value of its last parameter. -/
theorem value?_token {value : Bytes} (token : ∀ b ∈ value, isToken b = true) :
    value? value = some (value, []) := by
  have whole : tokenValue? value = some (value, []) := by
    rw [tokenValue?, List.takeWhile_eq_self_iff.mpr token, List.dropWhile_eq_nil_iff.mpr token]
  cases value with
  | nil => exact whole
  | cons b value =>
    have begins := token b (List.mem_cons_self ..)
    have unquoted : b ≠ Bytes.quote := by rintro rfl; cases begins
    rw [value?, if_neg unquoted, whole]

/-- A parameter that ends a media type. -/
theorem parameters?_last {name value : Bytes} (named : name ≠ [])
    (nameToken : ∀ b ∈ name, isToken b = true) (valueToken : ∀ b ∈ value, isToken b = true) :
    parameters? (Bytes.blank :: (name ++ Bytes.equals :: value)) = some [(name, value)] := by
  have solid : (Bytes.blank :: (name ++ Bytes.equals :: value)).dropWhile (· == Bytes.blank) =
      name ++ Bytes.equals :: value := by
    cases name with
    | nil => exact absurd rfl named
    | cons b name =>
      have begins := nameToken b (List.mem_cons_self ..)
      have notBlank : b ≠ Bytes.blank := by rintro rfl; cases begins
      rw [List.cons_append, List.dropWhile_cons_of_pos rfl,
        List.dropWhile_cons_of_neg (by simpa using notBlank)]
  have read : parameter? (name ++ Bytes.equals :: value) = some ((name, value), []) := by
    have stops : isToken Bytes.equals = false := rfl
    obtain ⟨taken, dropped⟩ := takeWhile_run nameToken stops value
    rw [parameter?, dropped, taken]
    dsimp only
    rw [if_pos ⟨rfl, named⟩, value?_token valueToken]
    rfl
  have ended : parameters? [] = some [] := by rw [parameters?]; rfl
  rw [parameters?, solid, if_neg (by simp)]
  split
  · next none_ => rw [read] at none_; cases none_
  · next some_ =>
    rw [read] at some_
    cases some_
    rw [ended]
    rfl

/-- The media type of a form whose boundary is a token. -/
theorem parse?_formData {boundary : Bytes} (token : ∀ b ∈ boundary, isToken b = true) :
    parse? (Bytes.ofString "multipart/form-data; boundary=" ++ boundary) =
      some ⟨Bytes.ofString "multipart", Bytes.ofString "form-data",
        [(Bytes.ofString "boundary", boundary)]⟩ := by
  have shape : Bytes.ofString "multipart/form-data; boundary=" ++ boundary =
      Bytes.ofString "multipart" ++ Bytes.slash :: (Bytes.ofString "form-data" ++
        Bytes.semicolon :: (Bytes.blank ::
          (Bytes.ofString "boundary" ++ Bytes.equals :: boundary))) := by
    have fixed : Bytes.ofString "multipart/form-data; boundary=" =
        Bytes.ofString "multipart" ++ Bytes.slash :: (Bytes.ofString "form-data" ++
          Bytes.semicolon :: (Bytes.blank ::
            (Bytes.ofString "boundary" ++ [Bytes.equals]))) := by decide
    simp [fixed]
  have type : ∀ b ∈ Bytes.ofString "multipart", isToken b = true :=
    List.all_eq_true.mp (by decide)
  have subtype : ∀ b ∈ Bytes.ofString "form-data", isToken b = true :=
    List.all_eq_true.mp (by decide)
  have name : ∀ b ∈ Bytes.ofString "boundary", isToken b = true :=
    List.all_eq_true.mp (by decide)
  have slash : isToken Bytes.slash = false := rfl
  have semicolon : isToken Bytes.semicolon = false := rfl
  have types := takeWhile_run type slash
  have subtypes := takeWhile_run subtype semicolon
  have behind (tail : Bytes) :
      tokenValue? (Bytes.ofString "form-data" ++ Bytes.semicolon :: tail) =
        some (Bytes.ofString "form-data", tail) := by
    rw [tokenValue?, (subtypes tail).1, (subtypes tail).2]
    exact if_pos ⟨rfl, by decide⟩
  rw [shape, parse?, (types _).1, (types _).2]
  dsimp only
  rw [if_pos ⟨rfl, by decide⟩, behind, Option.bind_eq_bind, Option.bind_some,
    parameters?_last (by decide) name token]
  rfl

theorem isFormData_multipart (parameters : List (Bytes × Bytes)) :
    isFormData ⟨Bytes.ofString "multipart", Bytes.ofString "form-data", parameters⟩ = true :=
  rfl

end MediaType

theorem first?_announcement (boundary : String) (headers : Headers) :
    Headers.first? (announcement boundary :: headers) "content-type" =
      some (announcement boundary).2 := by
  have small : "content-type".toLower = "content-type" := by decide +kernel
  have named : Headers.named "content-type" (announcement boundary) = true := by
    rw [Headers.named, announcement, small]
    rfl
  rw [Headers.first?, List.find?_cons_of_pos named]
  rfl

/-- The boundary is read back from the header that announces it. -/
theorem boundary_of_announcement {boundary : String} (announceable : Announceable boundary)
    {headers : Headers}
    (announced : headers.first? "content-type" = some (announcement boundary).2) :
    FormData.boundary headers = .ok (Bytes.ofString boundary) := by
  have token : ∀ b ∈ Bytes.ofString boundary, isToken b = true :=
    fun b member => (announceable.inName member).isToken
  have printable : (announcement boundary).2.all isPrintable = true := by
    rw [announcement, ofString_append, List.all_append, Bool.and_eq_true]
    refine ⟨by decide, List.all_eq_true.mpr fun b member => ?_⟩
    have range := announceable.inName member
    unfold InName at range
    simp only [isPrintable, Bytes.tab, Bool.or_eq_true, Bool.and_eq_true, beq_iff_eq,
      decide_eq_true_eq, UInt8.le_iff_toNat_le, UInt8.lt_iff_toNat_lt, ← UInt8.toNat_inj,
      UInt8.reduceToNat]
    omega
  rw [FormData.boundary, announced]
  dsimp only
  rw [if_pos printable, announcement, ofString_append, MediaType.parse?_formData token]
  dsimp only
  rw [MediaType.isFormData_multipart]
  rfl

/-! ## Any boundary -/

namespace MediaType

variable {run value after : Bytes}

theorem subset_of_dropWhile {p : UInt8 → Bool} {b : UInt8} (h : run.dropWhile p = b :: after) :
    after ⊆ run := by
  have kept := (List.dropWhile_suffix p (l := run)).subset
  rw [h] at kept
  exact fun octet member => kept (List.mem_cons_of_mem b member)

theorem subset_quotedValue? (h : quotedValue? run = some (value, after)) :
    value ⊆ run ∧ after ⊆ run := by
  cases run with
  | nil => cases h
  | cons first more =>
    rw [quotedValue?] at h
    split at h
    · cases h
    · next closes =>
      split at h
      · cases h
        constructor
        · exact List.cons_subset_cons first (List.takeWhile_prefix _).subset
        · exact fun octet member => List.mem_cons_of_mem first (subset_of_dropWhile closes member)
      · cases h

theorem subset_nextParameter? (h : nextParameter? run = some after) : after ⊆ run := by
  rw [nextParameter?] at h
  split at h
  · cases h
    exact List.nil_subset run
  · next ends =>
    split at h
    · cases h
      exact subset_of_dropWhile ends
    · cases h

theorem subset_tokenValue? (h : tokenValue? run = some (value, after)) :
    value ⊆ run ∧ after ⊆ run := by
  have front : run.takeWhile isToken ⊆ run := (List.takeWhile_prefix isToken).subset
  rw [tokenValue?] at h
  split at h
  · cases h
    exact ⟨front, List.nil_subset run⟩
  · next ends =>
    split at h
    · cases h
      exact ⟨front, subset_of_dropWhile ends⟩
    · cases h

theorem subset_value? (h : value? run = some (value, after)) : value ⊆ run ∧ after ⊆ run := by
  cases run with
  | nil => exact subset_tokenValue? h
  | cons b run =>
    rw [value?] at h
    split at h
    · split at h
      · cases h
      · next quoted =>
        obtain ⟨rest, next, same⟩ := Option.map_eq_some_iff.mp h
        cases same
        obtain ⟨inner, behind⟩ := subset_quotedValue? quoted
        have further := List.Subset.trans (subset_nextParameter? next) behind
        exact ⟨fun octet member => List.mem_cons_of_mem b (inner member),
          fun octet member => List.mem_cons_of_mem b (further member)⟩
    · exact subset_tokenValue? h

theorem subset_parameter? {parameter : Bytes × Bytes}
    (h : parameter? run = some (parameter, after)) : parameter.2 ⊆ run ∧ after ⊆ run := by
  rw [parameter?] at h
  split at h
  · cases h
  · next ends =>
    split at h
    · obtain ⟨⟨value, rest⟩, found, same⟩ := Option.map_eq_some_iff.mp h
      cases same
      obtain ⟨inner, behind⟩ := subset_value? found
      have within := subset_of_dropWhile ends
      exact ⟨List.Subset.trans inner within, List.Subset.trans behind within⟩
    · cases h

theorem subset_parameters? {parameters : List (Bytes × Bytes)}
    (h : parameters? run = some parameters) : ∀ p ∈ parameters, p.2 ⊆ run := by
  fun_induction parameters? run generalizing parameters with
  | case1 run empty =>
    cases h
    exact nofun
  | case2 run solid none_ => cases h
  | case3 run solid parameter after found ih =>
    obtain ⟨later, read, rfl⟩ := Option.map_eq_some_iff.mp h
    have within : run.dropWhile (· == Bytes.blank) ⊆ run := (List.dropWhile_suffix _).subset
    obtain ⟨inner, behind⟩ := subset_parameter? found
    intro p member
    rcases List.mem_cons.mp member with rfl | further
    · exact List.Subset.trans inner within
    · exact List.Subset.trans (ih read p further) (List.Subset.trans behind within)

/-- What the parameters of a media type say stands in it. -/
theorem subset_parse? {m : MediaType} (h : parse? run = some m) :
    ∀ p ∈ m.parameters, p.2 ⊆ run := by
  rw [parse?] at h
  dsimp only at h
  split at h
  · cases h
  · next ends =>
    split at h
    · simp only [Option.bind_eq_bind, Option.bind_eq_some_iff, Option.some.injEq] at h
      obtain ⟨⟨subtype, after⟩, token, parameters, read, rfl⟩ := h
      have within := List.Subset.trans (subset_tokenValue? token).2 (subset_of_dropWhile ends)
      exact fun p member => List.Subset.trans (subset_parameters? read p member) within
    · cases h

end MediaType

/-- No line ends within a delimiter, whatever header announces it. -/
theorem cr_not_mem_delimiter_of_boundary {headers : Headers} {boundary : Bytes}
    (announced : FormData.boundary headers = .ok boundary) : Bytes.cr ∉ delimiter boundary := by
  have plain : Bytes.cr ∉ boundary := by
    rw [FormData.boundary] at announced
    split at announced
    · cases announced
    · next value given =>
      split at announced
      · next printable =>
        split at announced
        · cases announced
        · next mediaType parsed =>
          split at announced
          · split at announced
            · cases announced
            · next found =>
              cases announced
              obtain ⟨parameter, first, rfl⟩ := Option.map_eq_some_iff.mp found
              have within := MediaType.subset_parse? parsed parameter (List.mem_of_find?_eq_some first)
              intro member
              have shown := List.all_eq_true.mp printable Bytes.cr (within member)
              cases shown
          · cases announced
      · cases announced
  simp only [delimiter, List.mem_cons, not_or]
  exact ⟨by decide, by decide, plain⟩

end Intake.FormData
