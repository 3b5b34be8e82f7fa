import Intake.FormData.Writing
import Intake.Proofs.Bytes.Cutting
import Intake.Proofs.Text.Utf8

/-!
# The heads of written parts

A part is written with a header block of one or two lines, and the block is read back as the
header fields that were written (`parse_headerText`). What can be written is `Part.Writable`:
names are plain ASCII (`isNameChar`), and a value that stands in a header line neither holds an
octet that a line cannot hold nor begins or ends with a blank (`Legible`).
-/

namespace Intake.FormData

/-! ## Characters -/

/-- An ASCII letter or digit, or one of `.`, `_` and `-`. -/
def isNameChar (c : Char) : Bool :=
  c.isAlphanum || c == '.' || c == '_' || c == '-'

/-- An ASCII letter or digit, or `-`. -/
def isBoundaryChar (c : Char) : Bool :=
  c.isAlphanum || c == '-'

/-- An ASCII character that is neither a control nor a blank. -/
def isVisible (c : Char) : Bool :=
  0x21 ≤ c.toNat && c.toNat ≤ 0x7E

/-- An octet that encodes a character of a name. -/
def InName (b : UInt8) : Prop :=
  (0x30 ≤ b.toNat ∧ b.toNat ≤ 0x39) ∨ (0x41 ≤ b.toNat ∧ b.toNat ≤ 0x5A) ∨
    (0x61 ≤ b.toNat ∧ b.toNat ≤ 0x7A) ∨ b.toNat = 0x2D ∨ b.toNat = 0x2E ∨ b.toNat = 0x5F

theorem ofString_append (s t : String) :
    Bytes.ofString (s ++ t) = Bytes.ofString s ++ Bytes.ofString t := by
  rw [Bytes.ofString, String.toList_append, List.flatMap_append]
  rfl

theorem ofString_ne_nil {s : String} (nonempty : s ≠ "") : Bytes.ofString s ≠ [] := by
  intro none_
  apply nonempty
  rw [← Utf8.decodeLossy_ofString s, none_, Utf8.decodeLossy, Utf8.leads]
  rfl

/-- The octets of an ASCII text are the code points of its characters. -/
theorem toNat_of_mem_ofString {s : String} (ascii : ∀ c ∈ s.toList, c.toNat < 0x80) {b : UInt8}
    (member : b ∈ Bytes.ofString s) : ∃ c ∈ s.toList, b.toNat = c.toNat := by
  obtain ⟨c, inside, octet⟩ := List.mem_flatMap.mp member
  have small : c.val.toNat ≤ 0x7F := Nat.le_of_lt_succ (ascii c inside)
  refine ⟨c, inside, ?_⟩
  unfold String.utf8EncodeChar at octet
  dsimp only at octet
  rw [if_pos small, List.mem_singleton] at octet
  rw [octet, Utf8.toNat_ofNat_of_lt (by omega)]
  rfl

theorem toNat_of_isAlphanum {c : Char} (h : c.isAlphanum = true) :
    (0x30 ≤ c.toNat ∧ c.toNat ≤ 0x39) ∨ (0x41 ≤ c.toNat ∧ c.toNat ≤ 0x5A) ∨
      (0x61 ≤ c.toNat ∧ c.toNat ≤ 0x7A) := by
  change ((decide (0x41 ≤ c.val ∧ c.val ≤ 0x5A) ||
    (decide (0x61 ≤ c.val) && decide (c.val ≤ 0x7A))) ||
      (decide (0x30 ≤ c.val) && decide (c.val ≤ 0x39))) = true at h
  simp only [Bool.or_eq_true, Bool.and_eq_true, decide_eq_true_eq, UInt32.le_iff_toNat_le] at h
  change ((0x41 ≤ c.toNat ∧ c.toNat ≤ 0x5A) ∨ (0x61 ≤ c.toNat ∧ c.toNat ≤ 0x7A)) ∨
    (0x30 ≤ c.toNat ∧ c.toNat ≤ 0x39) at h
  omega

theorem toNat_of_isNameChar {c : Char} (h : isNameChar c = true) :
    (0x30 ≤ c.toNat ∧ c.toNat ≤ 0x39) ∨ (0x41 ≤ c.toNat ∧ c.toNat ≤ 0x5A) ∨
      (0x61 ≤ c.toNat ∧ c.toNat ≤ 0x7A) ∨ c.toNat = 0x2D ∨ c.toNat = 0x2E ∨ c.toNat = 0x5F := by
  simp only [isNameChar, Bool.or_eq_true, beq_iff_eq] at h
  rcases h with ((letter | rfl) | rfl) | rfl
  · have range := toNat_of_isAlphanum letter
    omega
  · decide
  · decide
  · decide

theorem isNameChar_of_isBoundaryChar {c : Char} (h : isBoundaryChar c = true) :
    isNameChar c = true := by
  simp only [isBoundaryChar, Bool.or_eq_true] at h
  simp only [isNameChar, Bool.or_eq_true]
  exact h.imp_left fun letter => .inl (.inl letter)

theorem inName_of_mem {s : String} (names : ∀ c ∈ s.toList, isNameChar c = true) {b : UInt8}
    (member : b ∈ Bytes.ofString s) : InName b := by
  have ascii : ∀ c ∈ s.toList, c.toNat < 0x80 := by
    intro c inside
    have range := toNat_of_isNameChar (names c inside)
    omega
  obtain ⟨c, inside, same⟩ := toNat_of_mem_ofString ascii member
  unfold InName
  rw [same]
  exact toNat_of_isNameChar (names c inside)

theorem InName.isToken {b : UInt8} (h : InName b) : isToken b = true := by
  unfold InName at h
  simp only [FormData.isToken, isUpper, tokenMarks, Bool.or_eq_true, Bool.and_eq_true,
    decide_eq_true_eq, UInt8.le_iff_toNat_le, List.contains_iff_mem, List.mem_cons,
    ← UInt8.toNat_inj, UInt8.reduceToNat]
  omega

theorem InName.isValue {b : UInt8} (h : InName b) : HeaderBlock.isValue b = true := by
  unfold InName at h
  simp only [HeaderBlock.isValue, Bytes.tab, Bool.or_eq_true, Bool.and_eq_true, beq_iff_eq,
    bne_iff_ne, ne_eq, decide_eq_true_eq, UInt8.le_iff_toNat_le, ← UInt8.toNat_inj,
    UInt8.reduceToNat]
  omega

/-- A name holds none of the octets that end it. -/
theorem InName.plain {b : UInt8} (h : InName b) :
    b ≠ Bytes.quote ∧ b ≠ Bytes.backslash ∧ b ≠ Bytes.equals ∧ b ≠ Bytes.cr ∧
      Attribute.isSpace b = false ∧ b ≠ Bytes.semicolon := by
  unfold InName at h
  simp only [Attribute.isSpace, Bytes.quote, Bytes.backslash, Bytes.equals, Bytes.cr,
    Bytes.semicolon, Bool.or_eq_false_iff, beq_eq_false_iff_ne, ne_eq, ← UInt8.toNat_inj,
    UInt8.reduceToNat]
  omega

/-! ## Runs -/

/-- A run of octets with a property ends at the first octet without it. -/
theorem takeWhile_run {property : UInt8 → Bool} {run : Bytes}
    (all : ∀ b ∈ run, property b = true) {stop : UInt8} (ends : property stop = false)
    (tail : Bytes) :
    (run ++ stop :: tail).takeWhile property = run ∧
      (run ++ stop :: tail).dropWhile property = stop :: tail := by
  have neither : ¬ property stop = true := by simp [ends]
  rw [List.takeWhile_append_of_pos all, List.dropWhile_append_of_pos all,
    List.takeWhile_cons_of_neg neither, List.dropWhile_cons_of_neg neither, List.append_nil]
  exact ⟨rfl, rfl⟩

/-! ## Header fields -/

/-- A value that can stand in a header line as it is. -/
structure Legible (value : Bytes) : Prop where
  shown : ∀ b ∈ value, HeaderBlock.isValue b = true
  first : ∀ b ∈ value.head?, HeaderBlock.isPadding b = false
  last : ∀ b ∈ value.getLast?, HeaderBlock.isPadding b = false
  nonempty : value ≠ []

/-- A visible text can stand in a header line. -/
theorem legible_of_visible {s : String} (nonempty : s ≠ "")
    (visible : ∀ c ∈ s.toList, isVisible c = true) : Legible (Bytes.ofString s) := by
  have ranges : ∀ c ∈ s.toList, 0x21 ≤ c.toNat ∧ c.toNat ≤ 0x7E := by
    intro c inside
    simpa [isVisible] using visible c inside
  have octet : ∀ b ∈ Bytes.ofString s, 0x21 ≤ b.toNat ∧ b.toNat ≤ 0x7E := by
    intro b member
    obtain ⟨c, inside, same⟩ :=
      toNat_of_mem_ofString (fun c inside => by have range := ranges c inside; omega) member
    rw [same]
    exact ranges c inside
  have unpadded : ∀ b ∈ Bytes.ofString s, HeaderBlock.isPadding b = false := by
    intro b member
    have range := octet b member
    simp only [HeaderBlock.isPadding, Bytes.blank, Bytes.tab, Bool.or_eq_false_iff,
      beq_eq_false_iff_ne, ne_eq, ← UInt8.toNat_inj, UInt8.reduceToNat]
    omega
  refine ⟨fun b member => ?_, fun b head => unpadded b (List.mem_of_mem_head? head),
    fun b last => unpadded b (List.mem_of_getLast? last), ofString_ne_nil nonempty⟩
  have range := octet b member
  simp only [HeaderBlock.isValue, Bytes.tab, Bool.or_eq_true, Bool.and_eq_true, beq_iff_eq,
    bne_iff_ne, ne_eq, decide_eq_true_eq, UInt8.le_iff_toNat_le, ← UInt8.toNat_inj,
    UInt8.reduceToNat]
  omega

/-- A header field as it is written in a line. -/
def headerText (field : String × Bytes) : Bytes :=
  Bytes.ofString field.1 ++ Bytes.colon :: Bytes.blank :: field.2

/-- A header line, from the name to the line end. -/
def headerLine (field : String × Bytes) : Bytes :=
  headerText field ++ Bytes.crlf

namespace HeaderBlock

variable {name : String} {value : Bytes}

theorem trimPadding_eq (legible : Legible value) : trimPadding value = value := by
  unfold trimPadding
  cases reversed : value.reverse with
  | nil => exact absurd (List.reverse_eq_nil_iff.mp reversed) legible.nonempty
  | cons b front =>
    have ends : b ∈ value.getLast? := by
      rw [← List.head?_reverse, reversed]
      rfl
    rw [List.dropWhile_cons_of_neg (by simp [legible.last b ends]), ← reversed,
      List.reverse_reverse]

/-- What a line of a header block stands for, and what follows it. -/
theorem field_headerLine (token : ∀ b ∈ Bytes.ofString name, isToken b = true)
    (named : Bytes.ofString name ≠ []) (legible : Legible value) (rest : Bytes) :
    field (headerLine (name, value) ++ rest) = .ok ((name, value), rest) := by
  have colon : isToken Bytes.colon = false := rfl
  have cr : isValue Bytes.cr = false := rfl
  have names := takeWhile_run token colon
  have values := takeWhile_run legible.shown cr
  have padded (tail : Bytes) :
      (Bytes.blank :: (value ++ tail)).dropWhile isPadding = value ++ tail := by
    have first := legible.first
    cases value with
    | nil => exact absurd rfl legible.nonempty
    | cons b value =>
      rw [List.cons_append, List.dropWhile_cons_of_pos rfl,
        List.dropWhile_cons_of_neg (by simp [first b rfl])]
  have shape : headerLine (name, value) ++ rest = Bytes.ofString name ++
      Bytes.colon :: (Bytes.blank :: (value ++ Bytes.cr :: (Bytes.lf :: rest))) := by
    simp [headerLine, headerText, Bytes.crlf]
  unfold field
  rw [shape, (names _).1, (names _).2]
  dsimp only
  rw [if_pos ⟨rfl, named⟩, padded, (values _).1, (values _).2, trimPadding_eq legible,
    Utf8.decodeLossy_ofString]
  rfl

/-- A block of lines is read line by line. -/
theorem fields_headerLine (token : ∀ b ∈ Bytes.ofString name, isToken b = true)
    (named : Bytes.ofString name ≠ []) (legible : Legible value) (room : Nat) (rest : Bytes) :
    fields (room + 1) (headerLine (name, value) ++ rest) =
      (fields room rest).map ((name, value) :: ·) := by
  have line := field_headerLine token named legible rest
  cases octets : Bytes.ofString name with
  | nil => exact absurd octets named
  | cons b more =>
    have begins := token b (octets ▸ List.mem_cons_self ..)
    have notLf : b ≠ Bytes.lf := by rintro rfl; cases begins
    have notCr : b ≠ Bytes.cr := by rintro rfl; cases begins
    have shape : headerLine (name, value) ++ rest =
        b :: (more ++ Bytes.colon :: Bytes.blank :: value ++ Bytes.crlf ++ rest) := by
      simp [headerLine, headerText, octets]
    have goes (tail : Bytes) : afterLineEnd (b :: tail) = .error .unreadableHead := by
      simp [afterLineEnd, notLf, notCr]
    rw [shape] at line ⊢
    rw [fields, goes]
    dsimp only
    rw [if_neg (by simp [notCr]), line]

end HeaderBlock

/-! ## Header blocks of parts -/

/-- What stands before the name of a part in its disposition. -/
def dispositionStart : Bytes :=
  Bytes.ofString "form-data; name=\""

/-- What stands behind the name of a part in its disposition. -/
def PartKind.dispositionEnd : PartKind → Bytes
  | text => [Bytes.quote]
  | file filename _ =>
    Bytes.quote :: Bytes.semicolon :: Bytes.blank ::
      (Attribute.filename.text ++ (Bytes.equals :: Bytes.quote ::
        (Bytes.ofString filename ++ [Bytes.quote])))

/-- The disposition that is written for a part. -/
def Part.disposition (p : Part) : Bytes :=
  dispositionStart ++ (Bytes.ofString p.name ++ p.kind.dispositionEnd)

/-- The content type of a part, if one is written. -/
def PartKind.contentType? : PartKind → Option String
  | text => none
  | file _ contentType => contentType

/-- The header fields that are written for a part. -/
def Part.headers (p : Part) : Headers :=
  ("Content-Disposition", p.disposition) ::
    p.kind.contentType?.toList.map fun contentType => ("Content-Type", Bytes.ofString contentType)

/-- A part can be written with the boundary: its name and the name of its file are names, its
content type can stand in a header line, as any visible ASCII text can (`legible_of_visible`),
and its content does not hold what closes it. -/
structure Part.Writable (boundary : Bytes) (p : Part) : Prop where
  name : p.name ≠ "" ∧ ∀ c ∈ p.name.toList, isNameChar c = true
  filename : ∀ filename ∈ p.kind.filename?,
    filename ≠ "" ∧ ∀ c ∈ filename.toList, isNameChar c = true
  contentType : ∀ contentType ∈ p.kind.contentType?, Legible (Bytes.ofString contentType)
  content : ¬ closing (delimiter boundary) <:+: p.content

/-- The header block of a part holds its header fields. -/
theorem ofString_headerText (p : Part) :
    Bytes.ofString p.headerText = headerText ("Content-Disposition", p.disposition) ++
      p.kind.contentType?.toList.flatMap fun contentType =>
        Bytes.crlf ++ headerText ("Content-Type", Bytes.ofString contentType) := by
  have start : Bytes.ofString "Content-Disposition: form-data; name=\"" =
      Bytes.ofString "Content-Disposition" ++ Bytes.colon :: Bytes.blank :: dispositionStart := by
    decide
  have quote : Bytes.ofString "\"" = [Bytes.quote] := by decide
  have filename : Bytes.ofString "; filename=\"" = Bytes.semicolon :: Bytes.blank ::
      (Attribute.filename.text ++ [Bytes.equals, Bytes.quote]) := by decide
  have typed : Bytes.ofString "\"\r\nContent-Type: " = Bytes.quote ::
      (Bytes.crlf ++ Bytes.ofString "Content-Type" ++ [Bytes.colon, Bytes.blank]) := by decide
  unfold Part.headerText Part.disposition
  cases p.kind with
  | text =>
    simp [PartKind.headerTail, PartKind.contentType?, PartKind.dispositionEnd, headerText,
      ofString_append, start, quote]
  | file name contentType =>
    cases contentType with
    | none =>
      simp [PartKind.headerTail, PartKind.contentType?, PartKind.dispositionEnd, headerText,
        ofString_append, start, quote, filename]
    | some contentType =>
      simp [PartKind.headerTail, PartKind.contentType?, PartKind.dispositionEnd, headerText,
        ofString_append, start, quote, filename, typed]

theorem headerText_blankLine (p : Part) :
    Bytes.ofString p.headerText ++ blankLine = p.headers.flatMap headerLine ++ Bytes.crlf := by
  rw [ofString_headerText, Part.headers, blankLine]
  cases p.kind.contentType? <;> simp [headerLine]

variable {boundary : Bytes} {p : Part}

theorem Part.Writable.legible_disposition (writable : p.Writable boundary) :
    Legible p.disposition := by
  have names : ∀ b ∈ Bytes.ofString p.name, HeaderBlock.isValue b = true :=
    fun b member => (inName_of_mem writable.name.2 member).isValue
  have start : ∀ b ∈ dispositionStart, HeaderBlock.isValue b = true :=
    List.all_eq_true.mp (by decide)
  have ends : ∃ front, p.kind.dispositionEnd = front ++ [Bytes.quote] ∧
      ∀ b ∈ front, HeaderBlock.isValue b = true := by
    cases kind : p.kind with
    | text => exact ⟨[], rfl, nofun⟩
    | file filename contentType =>
      have legal : filename ∈ p.kind.filename? := by rw [kind]; rfl
      refine ⟨Bytes.quote :: Bytes.semicolon :: Bytes.blank ::
        (Attribute.filename.text ++ (Bytes.equals :: Bytes.quote :: Bytes.ofString filename)),
        by simp [PartKind.dispositionEnd], fun b member => ?_⟩
      have fixed : ∀ b ∈ Bytes.quote :: Bytes.semicolon :: Bytes.blank ::
          (Attribute.filename.text ++ [Bytes.equals, Bytes.quote]),
          HeaderBlock.isValue b = true := List.all_eq_true.mp (by decide)
      by_cases inside : b ∈ Bytes.ofString filename
      · exact (inName_of_mem (writable.filename filename legal).2 inside).isValue
      · refine fixed b ?_
        simp only [List.mem_cons, List.mem_append, List.not_mem_nil, or_false] at member ⊢
        simpa [inside] using member
  obtain ⟨front, tail, shown⟩ := ends
  have whole : p.disposition =
      dispositionStart ++ (Bytes.ofString p.name ++ front) ++ [Bytes.quote] := by
    simp [disposition, tail]
  refine ⟨fun b member => ?_, fun b head => ?_, fun b last => ?_, by simp [whole]⟩
  · rw [whole] at member
    simp only [List.mem_append, List.mem_singleton] at member
    rcases member with (inStart | inName | inFront) | rfl
    · exact start b inStart
    · exact names b inName
    · exact shown b inFront
    · rfl
  · have begins : p.disposition.head? = some 0x66 := rfl
    rw [begins] at head
    cases head
    rfl
  · rw [whole, List.getLast?_concat] at last
    cases last
    rfl

/-- The header block of a part is read as it was written. -/
theorem parse_headerText (writable : p.Writable boundary) :
    HeaderBlock.parse (Bytes.ofString p.headerText ++ blankLine) = .ok p.headers := by
  have named : ∀ b ∈ Bytes.ofString "Content-Disposition", isToken b = true :=
    List.all_eq_true.mp (by decide)
  have typed : ∀ b ∈ Bytes.ofString "Content-Type", isToken b = true :=
    List.all_eq_true.mp (by decide)
  have ended (room : Nat) : HeaderBlock.fields room Bytes.crlf = .ok [] := by
    cases room <;> rfl
  have disposition :=
    HeaderBlock.fields_headerLine named (by decide) writable.legible_disposition
  have short : HeaderBlock.withinLength p.headers = .ok p.headers := by
    unfold Part.headers HeaderBlock.withinLength
    cases p.kind.contentType? <;> rfl
  have read : HeaderBlock.fields HeaderBlock.maxFields
      (Bytes.ofString p.headerText ++ blankLine) = .ok p.headers := by
    rw [headerText_blankLine, Part.headers, HeaderBlock.maxFields, List.flatMap_cons,
      List.append_assoc, disposition]
    cases given : p.kind.contentType? with
    | none =>
      rw [Option.toList_none, List.map_nil, List.flatMap_nil, List.nil_append, ended]
      rfl
    | some contentType =>
      rw [Option.toList_some, List.map_cons, List.map_nil, List.flatMap_singleton,
        HeaderBlock.fields_headerLine typed (by decide) (writable.contentType contentType given),
        ended]
      rfl
  rw [HeaderBlock.parse, read]
  exact short

end Intake.FormData
