import Intake.Proofs.FormData.Reading

/-!
# What a form holds does not depend on how its body is cut up

Two steady bodies with the same octets are read as forms that hold the same parts, although the
data of a part come in other pieces (`Form.Alike`). All that the cutting must leave alone is the
first delimiter: it has to be there before a body pauses (`Body.Begins`).

* `alike_readFrom`: streams of which the same octets are still to come are read alike.
* `alike_read`: bodies with the same octets are read alike.
-/

namespace Intake.FormData

/-- Two forms hold the same parts, in whatever pieces, and end in the same way. -/
inductive Form.Alike : Form → Form → Prop
  | closed : Alike .closed .closed
  | fault (f : Fault) : Alike (.fault f) (.fault f)
  | part (head : PartHead) {pieces others : List Bytes} {rest behind : Form}
    (content : pieces.flatten = others.flatten) (further : Alike rest behind) :
    Alike (.part head pieces rest) (.part head others behind)
  | broken (head : PartHead) (pieces others : List Bytes) (f : Fault) :
    Alike (.broken head pieces f) (.broken head others f)

/-- The first delimiter, if there is one at all, is there before the body pauses. -/
def Body.Begins (delimiter : Bytes) (body : Body) : Prop :=
  delimiter <:+: body.octets → delimiter <:+: body.deliver.1

/-! ## One part -/

section

variable {delimiter : Bytes} {place : Place} {s t : Stream}

/-- In streams of which the same octets are still to come a reader finds the same: a part with
the same head and data, or the same end. -/
theorem findPart_same (steady : s.body.Steady) (still : t.body.Steady) (same : s.whole = t.whole)
    (begun : ∀ kept, advance delimiter place s.filled ≠ .starved .preamble kept)
    (begunToo : ∀ kept, advance delimiter place t.filled ≠ .starved .preamble kept) :
    (findPart delimiter place t = findPart delimiter place s ∧
      ∀ head data, findPart delimiter place s ≠ .part head data) ∨
    ∃ head data more, findPart delimiter place s = .part head data ∧
      findPart delimiter place t = .part head more ∧ data.body.Steady ∧ more.body.Steady ∧
      data.whole = more.whole := by
  have agrees := findPart_agrees steady begun
  have again := findPart_agrees still begunToo
  rw [← same] at again
  generalize advance delimiter place s.whole = reached at agrees again
  generalize findPart delimiter place s = found at agrees ⊢
  generalize findPart delimiter place t = other at again ⊢
  cases agrees with
  | closed => cases again; exact .inl ⟨rfl, nofun⟩
  | fault f => cases again; exact .inl ⟨rfl, nofun⟩
  | starved place kept => cases again; exact .inl ⟨rfl, nofun⟩
  | part head steady whole =>
    cases again with
    | part head still wholeToo =>
      exact .inr ⟨head, _, _, rfl, rfl, steady, still, whole.trans wholeToo.symm⟩

/-- From streams of which the same octets are still to come the same data of a part are read, or
they break off in both. -/
theorem readData_same (name : Option String) (once : Bytes.cr ∉ delimiter)
    (steady : s.body.Steady) (still : t.body.Steady) (same : s.whole = t.whole) :
    (∃ pieces others, readData delimiter name s = (pieces, .error (.incompleteField name)) ∧
      readData delimiter name t = (others, .error (.incompleteField name))) ∨
    ∃ pieces rest others more, readData delimiter name s = (pieces, .ok rest) ∧
      readData delimiter name t = (others, .ok more) ∧ pieces.flatten = others.flatten ∧
      rest.body.Steady ∧ more.body.Steady ∧ rest.whole = more.whole := by
  cases closes : Bytes.cut? (closing delimiter) s.whole with
  | none =>
    have missing := Bytes.cut?_eq_none_iff.mp closes
    obtain ⟨pieces, read⟩ := readData_of_missing name steady missing
    rw [same] at missing
    obtain ⟨others, readToo⟩ := readData_of_missing name still missing
    exact .inl ⟨pieces, others, read, readToo⟩
  | some parts =>
    obtain ⟨content, after⟩ := parts
    have cut := Bytes.cut?_eq_some_iff.mp closes
    obtain ⟨pieces, rest, read, flat, steadyRest, wholeRest⟩ := readData_of_cut name once steady cut
    rw [same] at cut
    obtain ⟨others, more, readToo, flatToo, steadyMore, wholeMore⟩ :=
      readData_of_cut name once still cut
    exact .inr ⟨pieces, rest, others, more, read, readToo, flat.trans flatToo.symm, steadyRest,
      steadyMore, wholeRest.trans wholeMore.symm⟩

/-! ## The whole form -/

/-- Streams of which the same octets are still to come are read alike. -/
theorem alike_readFrom (once : Bytes.cr ∉ delimiter) (steady : s.body.Steady)
    (still : t.body.Steady) (same : s.whole = t.whole)
    (begun : ∀ kept, advance delimiter place s.filled ≠ .starved .preamble kept)
    (begunToo : ∀ kept, advance delimiter place t.filled ≠ .starved .preamble kept) :
    (Form.readFrom delimiter place s).Alike (Form.readFrom delimiter place t) := by
  -- The recursion is that of the first stream; the second one keeps up with it part by part.
  fun_induction Form.readFrom delimiter place s generalizing t with
  | case1 place s found =>
    rw [Form.readFrom_eq]
    obtain ⟨other, -⟩ | ⟨head, data, more, here, -⟩ :=
      findPart_same steady still same begun begunToo
    · rw [other, found]
      exact .closed
    · rw [found] at here
      cases here
  | case2 place s f found =>
    rw [Form.readFrom_eq]
    obtain ⟨other, -⟩ | ⟨head, data, more, here, -⟩ :=
      findPart_same steady still same begun begunToo
    · rw [other, found]
      exact .fault f
    · rw [found] at here
      cases here
  | case3 place s head data found pieces f read =>
    rw [Form.readFrom_eq]
    obtain ⟨-, none_⟩ | ⟨head, data, more, here, other, steady, still, same⟩ :=
      findPart_same steady still same begun begunToo
    · exact absurd found (none_ head data)
    · rw [found] at here
      cases here
      rw [other]
      dsimp only
      obtain ⟨_, others, readHere, readToo⟩ | ⟨_, _, _, _, readHere, -⟩ :=
        readData_same head.name once steady still same
      · rw [read] at readHere
        cases readHere
        rw [readToo]
        exact .broken head pieces others _
      · rw [read] at readHere
        cases readHere
  | case4 place s head data found pieces rest read ih =>
    rw [Form.readFrom_eq _ _ t]
    obtain ⟨-, none_⟩ | ⟨head, data, more, here, other, steady, still, same⟩ :=
      findPart_same steady still same begun begunToo
    · exact absurd found (none_ head data)
    · rw [found] at here
      cases here
      rw [other]
      dsimp only
      obtain ⟨_, _, readHere, -⟩ | ⟨_, _, others, left, readHere, readToo, flat, steady, still,
        same⟩ := readData_same head.name once steady still same
      · rw [read] at readHere
        cases readHere
      · rw [read] at readHere
        cases readHere
        rw [readToo]
        refine .part head flat (ih steady still same ?_ ?_)
        · exact fun kept => advance_ne_preamble (by decide)
        · exact fun kept => advance_ne_preamble (by decide)

end

/-- A reader that has the first delimiter does not look for it any more. -/
theorem advance_of_delivered {delimiter : Bytes} {body : Body}
    (there : delimiter <:+: body.deliver.1) (kept : Bytes) :
    advance delimiter .preamble (Stream.mk [] body).filled ≠ .starved .preamble kept := by
  rw [Stream.filled_eq, List.nil_append]
  change advancePreamble _ _ ≠ _
  cases found : Bytes.cut? delimiter body.deliver.1 with
  | none => exact absurd there (Bytes.cut?_eq_none_iff.mp found)
  | some parts =>
    obtain ⟨front, rest⟩ := parts
    rw [advancePreamble, found]
    change advance delimiter .behindDelimiter rest ≠ .starved .preamble kept
    exact advance_ne_preamble (by decide)

/-- Bodies with the same octets are read alike, if in both the first delimiter is there before
they pause. -/
theorem alike_read {boundary : Bytes} {body other : Body} (once : Bytes.cr ∉ delimiter boundary)
    (steady : body.Steady) (still : other.Steady) (same : body.octets = other.octets)
    (begins : body.Begins (delimiter boundary)) (beginsToo : other.Begins (delimiter boundary)) :
    (Form.read boundary body).Alike (Form.read boundary other) := by
  by_cases there : delimiter boundary <:+: body.octets
  · have thereToo : delimiter boundary <:+: other.octets := same ▸ there
    exact alike_readFrom once steady still same (advance_of_delivered (begins there))
      (advance_of_delivered (beginsToo thereToo))
  · have missing : ¬ delimiter boundary <:+: other.octets := same ▸ there
    rw [Form.read, Form.read, Form.readFrom_eq, findPart_of_missing rfl steady there,
      Form.readFrom_eq, findPart_of_missing rfl still missing]
    exact .fault _

end Intake.FormData
