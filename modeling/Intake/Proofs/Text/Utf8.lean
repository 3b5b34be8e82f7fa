import Intake.Text.Utf8

/-!
# Texts survive their encoding

A run that begins with the encoding of a character is read as that character
(`lead_encode`), so that reading the octets of a text gives the text back, whether broken
octets are shown (`decodeLossy_ofString`) or refused (`decode?_ofString`).
-/

namespace Intake.Utf8

/-! ## Single octets -/

theorem toNat_ofNat_of_lt {n : Nat} (h : n < 256) : (UInt8.ofNat n).toNat = n := by
  rw [UInt8.toNat_ofNat']
  exact Nat.mod_eq_of_lt h

/-- An octet that carries the last six bits of a number. -/
theorem tail_ofNat (n : Nat) :
    isTail (UInt8.ofNat (n % 0x40 + 0x80)) = true ∧
      tailBits (UInt8.ofNat (n % 0x40 + 0x80)) = n % 0x40 := by
  have small : n % 0x40 + 0x80 < 256 := by omega
  simp only [isTail, tailBits, Bool.and_eq_true, decide_eq_true_eq, UInt8.le_iff_toNat_le,
    toNat_ofNat_of_lt small, UInt8.reduceToNat]
  omega

theorem mayFollow3_ofNat {n : Nat} (low : 0x800 ≤ n) (high : n < 0x10000)
    (valid : n < 0xD800 ∨ 0xDFFF < n) :
    mayFollow3 (UInt8.ofNat (n / 4096 % 0x10 + 0xE0)) (UInt8.ofNat (n / 64 % 0x40 + 0x80)) =
      true := by
  have first := toNat_ofNat_of_lt (show n / 4096 % 0x10 + 0xE0 < 256 by omega)
  have second := toNat_ofNat_of_lt (show n / 64 % 0x40 + 0x80 < 256 by omega)
  simp only [mayFollow3, ← UInt8.toNat_inj, isTail, Bool.and_eq_true, decide_eq_true_eq,
    UInt8.le_iff_toNat_le, first, second, UInt8.reduceToNat, apply_ite (· = true)]
  split
  · omega
  · split <;> omega

theorem mayFollow4_ofNat {n : Nat} (low : 0x10000 ≤ n) (high : n < 0x110000) :
    mayFollow4 (UInt8.ofNat (n / 262144 % 8 + 0xF0)) (UInt8.ofNat (n / 4096 % 0x40 + 0x80)) =
      true := by
  have first := toNat_ofNat_of_lt (show n / 262144 % 8 + 0xF0 < 256 by omega)
  have second := toNat_ofNat_of_lt (show n / 4096 % 0x40 + 0x80 < 256 by omega)
  simp only [mayFollow4, ← UInt8.toNat_inj, isTail, Bool.and_eq_true, decide_eq_true_eq,
    UInt8.le_iff_toNat_le, first, second, UInt8.reduceToNat, apply_ite (· = true)]
  split
  · omega
  · split <;> omega

/-! ## Characters of one to four octets -/

theorem lead_one {n : Nat} (small : n < 0x80) (rest : Bytes) :
    lead (UInt8.ofNat n) rest = (.char (Char.ofNat n), 0) := by
  have value := toNat_ofNat_of_lt (show n < 256 by omega)
  have below : UInt8.ofNat n < 0x80 := by
    rw [UInt8.lt_iff_toNat_lt, value]
    exact small
  unfold lead
  rw [if_pos below, value]

theorem lead_two {n : Nat} (low : 0x80 ≤ n) (high : n < 0x800) (rest : Bytes) :
    lead (UInt8.ofNat (n / 64 % 0x20 + 0xC0)) (UInt8.ofNat (n % 0x40 + 0x80) :: rest) =
      (.char (Char.ofNat n), 1) := by
  have value := toNat_ofNat_of_lt (show n / 64 % 0x20 + 0xC0 < 256 by omega)
  obtain ⟨follows, bits⟩ := tail_ofNat n
  have whole : (n / 64 % 0x20 + 0xC0) % 0x20 * 0x40 + n % 0x40 = n := by omega
  simp only [lead, UInt8.lt_iff_toNat_lt, UInt8.le_iff_toNat_le, value, UInt8.reduceToNat,
    follows, bits, whole]
  rw [if_neg (by omega), if_pos (by simp; omega), if_pos trivial]

theorem lead_three {n : Nat} (low : 0x800 ≤ n) (high : n < 0x10000)
    (valid : n < 0xD800 ∨ 0xDFFF < n) (rest : Bytes) :
    lead (UInt8.ofNat (n / 4096 % 0x10 + 0xE0))
      (UInt8.ofNat (n / 64 % 0x40 + 0x80) :: UInt8.ofNat (n % 0x40 + 0x80) :: rest) =
      (.char (Char.ofNat n), 2) := by
  have value := toNat_ofNat_of_lt (show n / 4096 % 0x10 + 0xE0 < 256 by omega)
  have may := mayFollow3_ofNat low high valid
  obtain ⟨-, bits⟩ := tail_ofNat (n / 64)
  obtain ⟨follows, last⟩ := tail_ofNat n
  have whole : (n / 4096 % 0x10 + 0xE0) % 0x10 * 0x1000 + n / 64 % 0x40 * 0x40 + n % 0x40 = n := by
    omega
  simp only [lead, UInt8.lt_iff_toNat_lt, UInt8.le_iff_toNat_le, value, UInt8.reduceToNat,
    follows, bits, last, may, whole]
  rw [if_neg (by omega), if_neg (by simp), if_pos (by simp; omega), if_pos trivial,
    if_pos trivial]

theorem lead_four {n : Nat} (low : 0x10000 ≤ n) (high : n < 0x110000) (rest : Bytes) :
    lead (UInt8.ofNat (n / 262144 % 8 + 0xF0))
      (UInt8.ofNat (n / 4096 % 0x40 + 0x80) :: UInt8.ofNat (n / 64 % 0x40 + 0x80) ::
        UInt8.ofNat (n % 0x40 + 0x80) :: rest) =
      (.char (Char.ofNat n), 3) := by
  have value := toNat_ofNat_of_lt (show n / 262144 % 8 + 0xF0 < 256 by omega)
  have may := mayFollow4_ofNat low high
  obtain ⟨-, bits⟩ := tail_ofNat (n / 4096)
  obtain ⟨follows, more⟩ := tail_ofNat (n / 64)
  obtain ⟨ends, last⟩ := tail_ofNat n
  have whole : (n / 262144 % 8 + 0xF0) % 8 * 0x40000 + n / 4096 % 0x40 * 0x1000 +
      n / 64 % 0x40 * 0x40 + n % 0x40 = n := by omega
  simp only [lead, UInt8.lt_iff_toNat_lt, UInt8.le_iff_toNat_le, value, UInt8.reduceToNat,
    follows, bits, more, ends, last, may, whole]
  rw [if_neg (by omega), if_neg (by simp), if_neg (by simp), if_pos (by simp; omega),
    if_pos trivial, if_pos trivial, if_pos trivial]

/-! ## Texts -/

/-- A run that begins with an encoded character is read as that character. -/
theorem lead_encode (c : Char) (rest : Bytes) :
    ∃ first tail, String.utf8EncodeChar c = first :: tail ∧
      lead first (tail ++ rest) = (.char c, tail.length) := by
  have same : Char.ofNat c.val.toNat = c := Char.ofNat_toNat c
  unfold String.utf8EncodeChar
  dsimp only
  split
  · next small =>
    refine ⟨_, _, rfl, ?_⟩
    rw [List.nil_append, lead_one (Nat.lt_succ_of_le small), same]
    rfl
  · next above =>
    split
    · next small =>
      refine ⟨_, _, rfl, ?_⟩
      rw [List.cons_append, List.nil_append,
        lead_two (Nat.not_le.mp above) (Nat.lt_succ_of_le small), same]
      rfl
    · next above =>
      have scalar : c.val.toNat < 0xD800 ∨ 0xDFFF < c.val.toNat ∧ c.val.toNat < 0x110000 :=
        c.valid
      split
      · next small =>
        have valid : c.val.toNat < 0xD800 ∨ 0xDFFF < c.val.toNat := scalar.imp_right And.left
        refine ⟨_, _, rfl, ?_⟩
        rw [List.cons_append, List.cons_append, List.nil_append,
          lead_three (Nat.not_le.mp above) (Nat.lt_succ_of_le small) valid, same]
        rfl
      · next above =>
        have high : c.val.toNat < 0x110000 := by omega
        refine ⟨_, _, rfl, ?_⟩
        rw [List.cons_append, List.cons_append, List.cons_append, List.nil_append,
          lead_four (Nat.not_le.mp above) high, same]
        rfl

/-- The octets of characters are read as those characters. -/
theorem leads_encode (cs : List Char) :
    leads (cs.flatMap String.utf8EncodeChar) = cs.map Lead.char := by
  induction cs with
  | nil => rw [List.flatMap_nil, leads, List.map_nil]
  | cons c cs ih =>
    obtain ⟨first, tail, encoded, read⟩ := lead_encode c (cs.flatMap String.utf8EncodeChar)
    rw [List.flatMap_cons, encoded, List.cons_append, leads, read]
    dsimp only
    rw [List.drop_left, ih, List.map_cons]

/-- Reading the octets of a text gives the text back. -/
theorem decodeLossy_ofString (s : String) : decodeLossy (Bytes.ofString s) = s := by
  have shown : (s.toList.map Lead.char).map Lead.shown = s.toList := by
    rw [List.map_map]
    exact List.map_id _
  rw [decodeLossy, Bytes.ofString, leads_encode, shown, String.ofList_toList]

theorem decode?_ofString (s : String) : decode? (Bytes.ofString s) = some s := by
  have read (cs : List Char) : (cs.map Lead.char).mapM Lead.char? = some cs := by
    induction cs with
    | nil => rfl
    | cons c cs ih => simp [List.mapM_cons, ih, Lead.char?]
  rw [decode?, Bytes.ofString, leads_encode, read, Option.map_some, String.ofList_toList]

end Intake.Utf8
