import Intake.Proofs.FormData.Attributes
import Intake.Proofs.FormData.Reading
import Mathlib.Data.List.Basic

/-!
# Reading undoes writing

However the body that carries parts is cut into frames, reading it gives the parts back, each
with its content and with its head as far as that can be read (`carries_read`).
-/

namespace Intake.FormData

/-! ## Heads -/

/-- Whether the name of a part hides the name of its file: where `filename` stands twice in a
row, the second is taken for the attribute, and no value follows it. -/
def Part.misread (p : Part) : Bool :=
  (Bytes.cut? (Bytes.ofString "filenamefilename") (Bytes.ofString p.name)).isSome

theorem Part.misread_iff {p : Part} : p.misread = true ↔
    Bytes.ofString "filenamefilename" <:+: Bytes.ofString p.name := by
  rw [misread, Option.isSome_iff_ne_none, ne_eq, Bytes.cut?_eq_none_iff, Classical.not_not]

example : Part.misread ⟨"filenamefilename", .file "a" none, []⟩ = true := by decide

/-- What a reader learns of a part that was written. -/
def Part.readHead (p : Part) : PartHead :=
  { p.head with filename := if p.misread then none else p.head.filename }

variable {boundary : Bytes} {p : Part}

theorem toLower_disposition : "Content-Disposition".toLower = "content-disposition" := by
  decide +kernel

theorem toLower_type : "Content-Type".toLower = "content-type" := by decide +kernel

theorem last?_disposition (p : Part) :
    p.headers.last? "content-disposition" = some p.disposition := by
  unfold Part.headers
  cases p.kind.contentType? <;>
    simp [Headers.last?, Headers.named, toLower_disposition, toLower_type]

theorem last?_contentType (p : Part) :
    p.headers.last? "content-type" = p.kind.contentType?.map Bytes.ofString := by
  unfold Part.headers
  cases p.kind.contentType? <;>
    simp [Headers.last?, Headers.named, toLower_disposition, toLower_type]

theorem Part.Writable.unquoted_name (writable : p.Writable boundary) :
    Attribute.Unquoted (Bytes.ofString p.name) := fun _ member =>
  let plain := (inName_of_mem writable.name.2 member).plain
  ⟨plain.1, plain.2.1⟩

theorem value?_name (writable : p.Writable boundary) :
    Attribute.name.value? p.disposition = some p.name := by
  have ends : ∃ rest, p.kind.dispositionEnd = Bytes.quote :: rest := by
    cases p.kind <;> exact ⟨_, rfl⟩
  rcases ends with ⟨rest, quote⟩
  rw [Attribute.value?, Part.disposition, quote, Attribute.octets?_name writable.unquoted_name,
    Option.bind_some, Utf8.decode?_ofString]

theorem value?_filename (writable : p.Writable boundary) :
    Attribute.filename.value? p.disposition = if p.misread then none else p.kind.filename? := by
  have names : ∀ b ∈ Bytes.ofString p.name, InName b :=
    fun b member => inName_of_mem writable.name.2 member
  have twice : Bytes.ofString "filenamefilename" =
      Attribute.filename.text ++ Attribute.filename.text := by decide
  rw [Attribute.value?, Part.disposition]
  cases kind : p.kind with
  | text =>
    rw [Attribute.octets?_text names]
    simp [PartKind.filename?]
  | file filename contentType =>
    have legal : filename ∈ p.kind.filename? := by rw [kind]; rfl
    have unquoted : Attribute.Unquoted (Bytes.ofString filename) := fun _ member =>
      let plain := (inName_of_mem (writable.filename filename legal).2 member).plain
      ⟨plain.1, plain.2.1⟩
    rcases Attribute.octets?_filename names unquoted contentType with ⟨hidden, seen⟩
    cases misread : p.misread with
    | true =>
      rw [hidden (twice ▸ Part.misread_iff.mp misread)]
      rfl
    | false =>
      have plain : ¬ Attribute.filename.text ++ Attribute.filename.text <:+:
          Bytes.ofString p.name := by
        rw [← twice, ← Part.misread_iff, misread]
        exact Bool.false_ne_true
      rw [seen plain, Option.bind_some, Utf8.decode?_ofString]
      rfl

/-- The head of a part is read from its header block. -/
theorem parse_head (writable : p.Writable boundary) :
    PartHead.parse (Bytes.ofString p.headerText ++ blankLine) = .ok p.readHead := by
  have contentType : Utf8.decodeLossy ((p.headers.last? "content-type").getD []) =
      p.kind.contentType := by
    rw [last?_contentType]
    cases p.kind with
    | text => exact Utf8.decodeLossy_ofString ""
    | file filename contentType =>
      cases contentType with
      | none => exact Utf8.decodeLossy_ofString ""
      | some contentType => exact Utf8.decodeLossy_ofString contentType
  rw [PartHead.parse, parse_headerText writable, Except.map, PartHead.ofHeaders,
    last?_disposition, Option.bind_some, Option.bind_some, value?_name writable,
    value?_filename writable, contentType]
  rfl

/-! ## Header blocks in a form -/

/-- A header field holds no line end, and does not end like one. -/
theorem plain_headerText {name : String} {value : Bytes}
    (token : ∀ b ∈ Bytes.ofString name, isToken b = true) (legible : Legible value) :
    (headerText (name, value)).count Bytes.cr = 0 ∧
      ∀ b ∈ (headerText (name, value)).getLast?, b ∉ blankLine := by
  constructor
  · refine List.count_eq_zero.mpr fun member => ?_
    simp only [headerText, List.mem_append, List.mem_cons] at member
    rcases member with inName | colon | blank | inValue
    · cases token _ inName
    · exact absurd colon (by decide)
    · exact absurd blank (by decide)
    · cases legible.shown _ inValue
  · intro b last member
    have shape : headerText (name, value) =
        (Bytes.ofString name ++ [Bytes.colon, Bytes.blank]) ++ value := by simp [headerText]
    rw [shape, List.getLast?_append_of_ne_nil _ legible.nonempty] at last
    have shown := legible.shown b (List.mem_of_getLast? last)
    have ends : b = Bytes.cr ∨ b = Bytes.lf := by
      simp only [blankLine, Bytes.crlf, List.mem_append, List.mem_cons, List.not_mem_nil,
        or_false] at member
      exact member.elim id id
    rcases ends with rfl | rfl <;> cases shown

/-- The empty line behind a header block is the first one. -/
theorem cut_headerText (writable : p.Writable boundary) (data : Bytes) :
    Bytes.FirstCut blankLine (Bytes.ofString p.headerText ++ (blankLine ++ data))
      (Bytes.ofString p.headerText) data := by
  have named : ∀ b ∈ Bytes.ofString "Content-Disposition", isToken b = true :=
    List.all_eq_true.mp (by decide)
  have typed : ∀ b ∈ Bytes.ofString "Content-Type", isToken b = true :=
    List.all_eq_true.mp (by decide)
  rcases plain_headerText named writable.legible_disposition with ⟨none_, last⟩
  have single : (Bytes.ofString p.headerText).count Bytes.cr ≤ 1 ∧
      ∀ b ∈ (Bytes.ofString p.headerText).getLast?, b ∉ blankLine := by
    rw [ofString_headerText]
    cases given : p.kind.contentType? with
    | none =>
      rw [Option.toList_none, List.flatMap_nil, List.append_nil, none_]
      exact ⟨Nat.zero_le 1, last⟩
    | some contentType =>
      obtain ⟨noMore, ends⟩ :=
        plain_headerText typed (writable.contentType contentType given)
      have filled : headerText ("Content-Type", Bytes.ofString contentType) ≠ [] := by
        simp [headerText]
      rw [Option.toList_some, List.flatMap_singleton, ← List.append_assoc,
        List.getLast?_append_of_ne_nil _ filled, List.count_append, List.count_append, none_,
        noMore]
      exact ⟨by decide, ends⟩
  refine Bytes.FirstCut.of_last (fun within => ?_) single.2 data
  have twice : blankLine.count Bytes.cr = 2 := by decide
  have more := within.sublist.count_le Bytes.cr
  omega

/-! ## Forms -/

/-- What follows the delimiter in front of parts. -/
def behind (boundary : Bytes) : List Part → Bytes
  | [] => [Bytes.hyphen, Bytes.hyphen] ++ Bytes.crlf
  | p :: parts =>
    Bytes.crlf ++ (Bytes.ofString p.headerText ++
      (blankLine ++ (p.content ++ (closing (delimiter boundary) ++ behind boundary parts))))

theorem encode_eq (boundary : Bytes) (parts : List Part) :
    encode boundary parts = delimiter boundary ++ behind boundary parts := by
  induction parts with
  | nil => simp [encode, behind, closingDelimiter]
  | cons p parts ih =>
    have step : encode boundary (p :: parts) = p.encode boundary ++ encode boundary parts := by
      simp [encode]
    rw [step, ih]
    simp [behind, Part.encode, closing]

theorem encode_append (boundary : Bytes) (parts later : List Part) :
    encode boundary (parts ++ later) =
      parts.flatMap (Part.encode boundary) ++ (delimiter boundary ++ behind boundary later) := by
  rw [← encode_eq, encode, encode, List.flatMap_append, List.append_assoc]

theorem advanceBehindDelimiter_crlf (rest : Bytes) :
    advanceBehindDelimiter (Bytes.crlf ++ rest) = advanceHead rest := rfl

theorem advance_delimiter (delimiter rest : Bytes) :
    advance delimiter .preamble (delimiter ++ rest) = advanceBehindDelimiter rest := by
  change advancePreamble delimiter (delimiter ++ rest) = _
  rw [advancePreamble, Bytes.cut?_eq_some_iff.mpr (.here delimiter rest)]

/-- Behind a delimiter a reader is led to the data of the next part, or to the end. -/
theorem advance_behind {parts : List Part}
    (writable : ∀ p ∈ parts, p.Writable boundary) :
    advanceBehindDelimiter (behind boundary parts) =
      match parts with
      | [] => .closed
      | p :: parts => .part p.readHead
          (p.content ++ (closing (delimiter boundary) ++ behind boundary parts)) := by
  cases parts with
  | nil => rfl
  | cons p parts =>
    have legal := writable p (List.mem_cons_self ..)
    have cut := Bytes.cut?_eq_some_iff.mpr (cut_headerText legal
      (p.content ++ (closing (delimiter boundary) ++ behind boundary parts)))
    rw [behind, advanceBehindDelimiter_crlf, advanceHead, cut]
    dsimp only
    rw [parse_head legal]

/-- The delimiter behind the content of a part is the first one. -/
theorem Part.Writable.firstCut (writable : p.Writable boundary)
    (once : Bytes.cr ∉ delimiter boundary) (after : Bytes) :
    Bytes.FirstCut (closing (delimiter boundary))
      (p.content ++ (closing (delimiter boundary) ++ after)) p.content after :=
  .of_head writable.content (cr_not_mem_lf_cons once) after

/-- A form carries parts if they were read in order, each whole, and the form was closed behind
them. -/
inductive Form.Carries : Form → List Part → Prop
  | closed : Carries .closed []
  | part {p : Part} {parts : List Part} {pieces : List Bytes} {rest : Form}
      (content : pieces.flatten = p.content) (others : Carries rest parts) :
      Carries (.part p.readHead pieces rest) (p :: parts)

theorem Found.Agrees.eq_closed {found : Found} (agrees : found.Agrees .closed) :
    found = .closed := by
  cases agrees
  rfl

theorem Found.Agrees.eq_part {found : Found} {head : PartHead} {octets : Bytes}
    (agrees : found.Agrees (.part head octets)) :
    ∃ data, found = .part head data ∧ data.body.Steady ∧ data.whole = octets := by
  cases agrees with
  | part _ steady whole => exact ⟨_, rfl, steady, whole⟩

/-- A stream that leads behind a delimiter is read as the parts that are written there. -/
theorem carries_readFrom {parts : List Part} {place : Place} {s : Stream}
    (once : Bytes.cr ∉ delimiter boundary) (writable : ∀ p ∈ parts, p.Writable boundary)
    (steady : s.body.Steady)
    (begun : ∀ kept, advance (delimiter boundary) place s.filled ≠ .starved .preamble kept)
    (leads : advance (delimiter boundary) place s.whole =
      advanceBehindDelimiter (behind boundary parts)) :
    (Form.readFrom (delimiter boundary) place s).Carries parts := by
  have agrees := findPart_agrees steady begun
  rw [leads, advance_behind writable] at agrees
  induction parts generalizing place s with
  | nil =>
    rw [Form.readFrom_eq, agrees.eq_closed]
    exact .closed
  | cons p parts ih =>
    rcases agrees.eq_part with ⟨data, found, steady, whole⟩
    have legal := writable p (List.mem_cons_self ..)
    have cut := legal.firstCut once (behind boundary parts)
    rw [← whole] at cut
    obtain ⟨pieces, rest, read, flat, steady, whole⟩ :=
      readData_of_cut p.readHead.name once steady cut
    have others : ∀ p ∈ parts, p.Writable boundary := fun p member =>
      writable p (List.mem_cons_of_mem _ member)
    have begun (kept : Bytes) : advance (delimiter boundary) .behindDelimiter rest.filled ≠
        .starved .preamble kept := advance_ne_preamble (by decide)
    have leads : advance (delimiter boundary) .behindDelimiter rest.whole =
        advanceBehindDelimiter (behind boundary parts) := by
      rw [whole]
      rfl
    rw [Form.readFrom_eq, found]
    dsimp only
    rw [read]
    refine .part flat (ih others steady begun leads ?_)
    rw [← advance_behind others, ← leads]
    exact findPart_agrees steady begun

/-- A body carries written parts: it does not fail, its octets are those of the parts, and the
first delimiter is there before anything has to be waited for. -/
structure Body.CarriesParts (boundary : Bytes) (parts : List Part) (body : Body) : Prop where
  steady : body.Steady
  octets : body.octets = encode boundary parts
  begun : delimiter boundary <+: body.deliver.1

/-- A body carries parts if it lets wait for all but the first delimiter. -/
theorem Body.CarriesParts.waiting (boundary : Bytes) (parts : List Part) :
    Body.CarriesParts boundary parts
      [.frame (delimiter boundary), .wait, .frame (behind boundary parts)] where
  steady := by simp [Body.Steady]
  octets := by simp [Body.octets, encode_eq]
  begun := by simp [Body.deliver]

/-- A body carries parts if they come in one frame. -/
theorem Body.CarriesParts.atOnce (boundary : Bytes) (parts : List Part) :
    Body.CarriesParts boundary parts [.frame (encode boundary parts)] where
  steady := by simp [Body.Steady]
  octets := by simp [Body.octets]
  begun := by simp [Body.deliver, encode_eq]

/-- Reading a body that carries parts gives a form that carries them. -/
theorem carries_read {parts : List Part} {body : Body} (once : Bytes.cr ∉ delimiter boundary)
    (writable : ∀ p ∈ parts, p.Writable boundary)
    (carried : body.CarriesParts boundary parts) : (Form.read boundary body).Carries parts := by
  refine carries_readFrom once writable carried.steady (fun kept => ?_) ?_
  · rcases carried.begun with ⟨rest, front⟩
    rw [Stream.filled_eq, List.nil_append, ← front, advance_delimiter]
    change advance (delimiter boundary) .behindDelimiter rest ≠ .starved .preamble kept
    exact advance_ne_preamble (by decide)
  · change advance _ _ body.octets = _
    rw [carried.octets, encode_eq, advance_delimiter]

end Intake.FormData
