import Intake.Proofs.Text.Numeral
import Intake.Proofs.Text.Utf8
import Intake.Proofs.Upload.Declaration

/-!
# Which lengths are declared

The first length header of a request counts, and what it declares is decided by its text alone: the
number that it spells within blanks, if that takes no more than 64 bits, and nothing that can be
relied on otherwise.

* `Headers.first?_eq_none_iff`, `first?_append_cons`: which header counts.
* `DeclaredLength.ofHeaders_grammar`: what a request declares, whatever its headers are.
-/

namespace Intake

namespace Headers

theorem first?_eq_none_iff {headers : Headers} {name : String} :
    headers.first? name = none ↔ ∀ field ∈ headers, field.1.toLower ≠ name := by
  rw [first?, Option.map_eq_none_iff, List.find?_eq_none]
  simp only [named, beq_iff_eq, ne_eq]

/-- The first of several fields of a name counts. -/
theorem first?_append_cons {before : Headers} {field : String × Bytes} {name : String}
    (is : field.1.toLower = name) (others : ∀ other ∈ before, other.1.toLower ≠ name)
    (after : Headers) : Headers.first? (before ++ field :: after) name = some field.2 := by
  have none_ : before.find? (named name) = none := by
    rw [← Option.map_eq_none_iff]
    exact first?_eq_none_iff.mpr others
  have found : named name field = true := beq_iff_eq.mpr is
  rw [first?, List.find?_append, none_, Option.none_or, List.find?_cons_of_pos found,
    Option.map_some]

end Headers

namespace DeclaredLength

variable {headers : Headers} {value : Bytes} {n : Nat}

theorem ofHeaders_eq_absent_iff :
    ofHeaders headers = .absent ↔ ∀ field ∈ headers, field.1.toLower ≠ "content-length" := by
  rw [← Headers.first?_eq_none_iff, ofHeaders]
  cases headers.first? "content-length" with
  | none => exact iff_of_true rfl rfl
  | some value =>
    refine iff_of_false (fun absent => ?_) nofun
    dsimp only [ofValue] at absent
    split at absent
    · cases absent
    · cases absent

/-- What is declared is the number that the first length header spells. -/
theorem ofHeaders_eq_known_iff_spells (first : headers.first? "content-length" = some value) :
    ofHeaders headers = .known n ↔
      Text.SpellsWithin (Utf8.decodeLossy value) n ∧ n < Word.limit := by
  rw [ofHeaders_eq_known_iff, first, ← Text.readNumeral_trim_eq_ok_iff]
  simp only [Option.some.injEq, exists_eq_left']

/-- A header that is no number is kept as it is. -/
theorem ofHeaders_eq_unparsable_iff (first : headers.first? "content-length" = some value) :
    ofHeaders headers = .unparsable (Utf8.decodeLossy value) ↔
      ∀ n, Text.SpellsWithin (Utf8.decodeLossy value) n → Word.limit ≤ n := by
  constructor
  · intro unread n spelled
    by_contra small
    have known := (ofHeaders_eq_known_iff_spells first).mpr ⟨spelled, Nat.not_le.mp small⟩
    cases unread.symm.trans known
  · intro large
    have unread n : ofHeaders headers ≠ .known n := fun known => by
      obtain ⟨spelled, small⟩ := (ofHeaders_eq_known_iff_spells first).mp known
      exact absurd small (Nat.not_lt.mpr (large n spelled))
    rw [ofHeaders, first] at unread ⊢
    dsimp only at unread ⊢
    unfold ofValue at unread ⊢
    split at unread
    · exact absurd rfl (unread _)
    · rfl

/-- The declared length is read by an exact grammar. None is declared just if there is no length
header. Otherwise the first one counts: a number is declared just if the text is blanks, the
number's digits with at most a plus sign in front of them, and blanks, and the number takes no more
than 64 bits; anything else is kept as it was given. So a number of 64 bits in decimal declares
itself, and a larger number is no number at all. -/
theorem ofHeaders_grammar (headers : Headers) :
    (ofHeaders headers = .absent ↔ ∀ field ∈ headers, field.1.toLower ≠ "content-length") ∧
    ∀ (before after : Headers) (name : String) (value : Bytes),
      headers = before ++ (name, value) :: after → name.toLower = "content-length" →
      (∀ field ∈ before, field.1.toLower ≠ "content-length") →
      let raw := Utf8.decodeLossy value
      (∀ n, ofHeaders headers = .known n ↔ Text.SpellsWithin raw n ∧ n < Word.limit) ∧
      ((∀ n, ofHeaders headers ≠ .known n) ↔ ofHeaders headers = .unparsable raw) ∧
      (∀ n < Word.limit, value = Bytes.ofString (toString n) → ofHeaders headers = .known n) ∧
      ∀ n, Text.SpellsWithin raw n → Word.limit ≤ n → ofHeaders headers = .unparsable raw := by
  refine ⟨ofHeaders_eq_absent_iff, ?_⟩
  rintro before after name value rfl is others raw
  have first : Headers.first? (before ++ (name, value) :: after) "content-length" = some value :=
    Headers.first?_append_cons is others after
  have known n := ofHeaders_eq_known_iff_spells (n := n) first
  have unread := ofHeaders_eq_unparsable_iff first
  refine ⟨known, ?_, fun n small decimal => ?_, fun n spelled large => ?_⟩
  · rw [unread]
    refine forall_congr' fun n => ?_
    rw [Ne, known, not_and, Nat.not_lt]
  · rw [known, decimal, Utf8.decodeLossy_ofString]
    exact ⟨Text.spellsWithin_toString n, small⟩
  · rw [unread]
    intro m other
    exact spelled.unique other ▸ large

/-- Zeros, a plus sign and blanks around a number do not matter, and the first header counts. One
more than the largest number of 64 bits is no number, and does not come down to 0. -/
theorem ofHeaders_grammar_at_limit :
    ofHeaders [("Host", []), ("Content-Length", Bytes.ofString "\t+0018446744073709551615 "),
      ("content-length", Bytes.ofString "7")] = .known 18446744073709551615 ∧
    ofHeaders [("content-length", Bytes.ofString "18446744073709551616")] =
      .unparsable "18446744073709551616" := by
  have clear : ∀ field ∈ ([("Host", [])] : Headers), field.1.toLower ≠ "content-length" := by
    decide +kernel
  obtain ⟨known, -⟩ := (ofHeaders_grammar _).2 [("Host", [])]
    [("content-length", Bytes.ofString "7")] "Content-Length"
    (Bytes.ofString "\t+0018446744073709551615 ") rfl (by decide +kernel) clear
  obtain ⟨-, -, -, large⟩ := (ofHeaders_grammar _).2 [] [] "content-length"
    (Bytes.ofString "18446744073709551616") rfl (by decide +kernel) nofun
  rw [Utf8.decodeLossy_ofString] at known large
  constructor
  · refine (known _).mpr ⟨⟨['\t'], "+0018446744073709551615".toList, [' '], rfl, ?_, ?_, ?_⟩, ?_⟩
    · exact List.forall_mem_singleton.mpr (by decide)
    · exact List.forall_mem_singleton.mpr (by decide)
    · exact @Text.Spells.signed "0018446744073709551615".toList nofun
        (List.all_eq_true.mp (by decide))
    · decide
  · exact large _ (Text.spellsWithin_toString 18446744073709551616) (by decide)

end DeclaredLength

end Intake
