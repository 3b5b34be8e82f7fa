import Intake.Proofs.FilePath.Parts

/-!
# Paths that are joined

Joining puts nothing but a slash between two paths (`octets_join`), so three paths can be joined
from either side (`join_join`). What is put behind a path is within it (`isWithin_join`) and keeps
its name (`fileName_join`).
-/

namespace Intake

namespace FilePath

variable {base middle tail : FilePath}

/-! ## What is put behind a path -/

/-- What stands between a path and what is put behind it. -/
def gap (p : FilePath) : Bytes :=
  if p.octets = [] ∨ p.octets.getLast? = some Bytes.slash then [] else [Bytes.slash]

theorem octets_join (base : FilePath) (relative : tail.isAbsolute = false) :
    (base.join tail).octets = base.octets ++ (base.gap ++ tail.octets) := by
  unfold join gap
  rw [if_neg (by simp [relative])]
  split <;> rfl

theorem gap_cases (p : FilePath) : p.gap = [] ∨ p.gap = [Bytes.slash] := by
  unfold gap
  split
  · exact .inl rfl
  · exact .inr rfl

/-- Joining brings in no octet but slashes. -/
theorem mem_octets_join {octet : UInt8} (other : octet ≠ Bytes.slash) (base : FilePath)
    (relative : tail.isAbsolute = false) :
    octet ∈ (base.join tail).octets ↔ octet ∈ base.octets ∨ octet ∈ tail.octets := by
  rw [octets_join base relative, List.mem_append, List.mem_append]
  rcases base.gap_cases with gap | gap <;> simp [gap, other]

theorem getLast?_join (base : FilePath) (relative : tail.isAbsolute = false)
    (nonempty : tail.octets ≠ []) :
    (base.join tail).octets.getLast? = tail.octets.getLast? := by
  rw [octets_join base relative, ← List.append_assoc, List.getLast?_append]
  cases last : tail.octets.getLast? with
  | none => exact absurd (List.getLast?_eq_none_iff.mp last) nonempty
  | some b => rfl

theorem endsInSlash_join (base : FilePath) (relative : tail.isAbsolute = false)
    (nonempty : tail.octets ≠ []) : (base.join tail).endsInSlash = tail.endsInSlash := by
  rw [endsInSlash, getLast?_join base relative nonempty, endsInSlash]

/-- What stands behind a joined path depends on its second part only. -/
theorem gap_join (base : FilePath) (relative : tail.isAbsolute = false) :
    (base.join tail).gap = tail.gap := by
  by_cases empty : tail.octets = []
  · have closed : base.octets ++ base.gap = [] ∨
        (base.octets ++ base.gap).getLast? = some Bytes.slash := by
      unfold gap
      split
      · next closed => rwa [List.append_nil]
      · exact .inr List.getLast?_concat
    rw [gap, octets_join base relative, empty, List.append_nil, if_pos closed, gap,
      if_pos (.inl empty)]
  · have joined : (base.join tail).octets ≠ [] := by
      rw [octets_join base relative]
      simp [empty]
    rw [gap, gap, getLast?_join base relative empty]
    simp only [joined, empty, false_or]

/-- A relative path behind a relative one is relative. -/
theorem relative_join (inner : middle.isAbsolute = false) (relative : tail.isAbsolute = false) :
    (middle.join tail).isAbsolute = false := by
  by_cases empty : middle.octets = []
  · rw [isAbsolute, octets_join middle relative, empty, gap, if_pos (.inl empty)]
    exact relative
  · rw [isAbsolute_join relative empty, inner]

/-- Three paths are joined from either side. -/
theorem join_join (base : FilePath) (inner : middle.isAbsolute = false)
    (relative : tail.isAbsolute = false) :
    (base.join middle).join tail = base.join (middle.join tail) := by
  have octets : ((base.join middle).join tail).octets = (base.join (middle.join tail)).octets := by
    rw [octets_join _ relative, octets_join _ inner, gap_join _ inner,
      octets_join _ (relative_join inner relative), octets_join _ relative]
    simp only [List.append_assoc]
  exact congrArg FilePath.mk octets

/-! ## Names in a path -/

/-- The names in a path are what its steps stand for. -/
theorem mem_filterMap_of_name {p : FilePath} {name : Bytes} (member : .name name ∈ p.components) :
    .name name ∈ p.steps.filterMap component? := by
  rw [components_eq, start] at member
  rcases List.mem_append.mp member with front | behind
  · split at front
    · cases List.mem_singleton.mp front
    · split at front
      · cases List.mem_singleton.mp front
      · cases front
  · exact behind

theorem steps_ne_nil_of_name {p : FilePath} {name : Bytes} (member : .name name ∈ p.components) :
    p.steps ≠ [] := by
  intro none_
  have inside := mem_filterMap_of_name member
  rw [none_] at inside
  cases inside

/-- A step that stands for a name is that name, and does not go up. -/
theorem eq_of_component?_name {step name : Bytes} (stands : component? step = some (.name name)) :
    step = name ∧ FileSystem.isUp step = false := by
  unfold component? at stands
  split at stands
  · cases stands
  · split at stands
    · cases stands
    · next climbs =>
      cases stands
      exact ⟨rfl, beq_eq_false_iff_ne.mpr climbs⟩

/-- A name among the components of a path is one of its steps. -/
theorem mem_steps_of_name {p : FilePath} {name : Bytes} (member : .name name ∈ p.components) :
    name ∈ p.steps ∧ FileSystem.isUp name = false ∧ component? name = some (.name name) := by
  rcases List.mem_filterMap.mp (mem_filterMap_of_name member) with ⟨step, inside, stands⟩
  obtain ⟨rfl, notUp⟩ := eq_of_component?_name stands
  exact ⟨inside, notUp, stands⟩

/-! ## Names behind a path -/

theorem start_join (relative : tail.isAbsolute = false) (nonempty : base.octets ≠ []) :
    (base.join tail).start = base.start := by
  have head : (segments (base.join tail).octets).head? = (segments base.octets).head? := by
    -- A slash closes the first segment of `base`, be it its own or the one that joins.
    have closed (front behind : Bytes) :
        (segments (front ++ Bytes.slash :: behind)).head? = (segments front).head? := by
      rw [segments, Bytes.splitAll_append, List.head?_append]
      cases parts : Bytes.splitAll Bytes.slash front with
      | nil => exact absurd parts (Bytes.splitAll_ne_nil _ _)
      | cons first more => rw [segments, parts]; rfl
    rw [octets_join base relative, gap]
    split
    · next open_ =>
      rcases open_ with empty | slash
      · exact absurd empty nonempty
      · rcases List.getLast?_eq_some_iff.mp slash with ⟨front, octets⟩
        rw [octets, List.nil_append, List.append_assoc, List.cons_append, List.nil_append, closed,
          closed]
    · exact closed base.octets tail.octets
  rw [start, start, head, isAbsolute_join relative nonempty]

/-- What is put behind a path is within it. -/
theorem isWithin_join (relative : tail.isAbsolute = false) (nonempty : base.octets ≠ []) :
    (base.join tail).isWithin base = true := by
  rw [isWithin, List.isPrefixOf_iff_prefix, components_eq, components_eq,
    start_join relative nonempty, steps_join base relative, List.filterMap_append,
    ← List.append_assoc]
  exact List.prefix_append ..

/-- What lies behind a path has the name that it had before. -/
theorem fileName_join (base : FilePath) (relative : tail.isAbsolute = false) {name : Bytes}
    (named : .name name ∈ tail.components) : (base.join tail).fileName = tail.fileName := by
  have inside := mem_filterMap_of_name named
  have last (front : List Component) :
      (front ++ tail.steps.filterMap component?).getLast? =
        (tail.steps.filterMap component?).getLast? := by
    rw [List.getLast?_append]
    cases ends : (tail.steps.filterMap component?).getLast? with
    | none =>
      rw [List.getLast?_eq_none_iff.mp ends] at inside
      cases inside
    | some component => rfl
  rw [fileName, fileName, components_eq, components_eq tail, steps_join base relative,
    List.filterMap_append, ← List.append_assoc, last, last]

end FilePath

end Intake
