/-!
Texts for a terminal, and such texts without what commands it: control characters other than
white space, and the sequences that an escape character starts.

A sequence ends with its final character, or, where it carries a text, with the next escape
character or a cancel or substitute character, and besides with a bell or with a string
terminator, which depends on its kind. White space within a sequence that carries no text is
shown, and so is what follows it up to the next control character; then the sequence goes on.
-/

namespace Intake.Text

/-! ## Emphasis -/

/-- A text in bold. -/
def bold (s : String) : String :=
  "\x1b[1m" ++ s ++ "\x1b[0m"

/-- A text in bold that is underlined. -/
def heading (s : String) : String :=
  "\x1b[1m\x1b[4m" ++ s ++ "\x1b[0m"

/-! ## Sequences -/

/-- The part of a sequence that is being read. -/
inductive TerminalState where
  /-- No sequence is. -/
  | ground
  /-- An escape character was read. -/
  | escape
  /-- An escape character and an intermediate one were read. -/
  | intermediate
  /-- A control sequence is read, up to its final character. -/
  | control
  /-- A device control sequence was begun, whose text follows a final character. -/
  | device
  /-- Parameters of a device control sequence are read. -/
  | deviceParameter
  /-- Intermediate characters of a device control sequence are read. -/
  | deviceIntermediate
  /-- A text is read that a string terminator may end. -/
  | string
  /-- A text is read that a bell may end. -/
  | command
deriving DecidableEq, Repr

namespace TerminalState

/-- Whether an ASCII character is white space. -/
def isSpace (c : Char) : Bool :=
  [' ', '\t', '\n', '\x0c', '\r'].contains c

/-- The state behind a character that follows an escape character. -/
def afterEscape (c : Char) : TerminalState :=
  if c < ' ' ∨ '\x7f' ≤ c then escape
  else if c < '0' then intermediate
  else if c = '[' then control
  else if c = ']' then command
  else if c = 'P' then device
  else if ['X', '^', '_'].contains c then string
  else ground

/-- The state behind a character of a device control sequence. Characters out of order are
passed over like a text. -/
def afterDevice (s : TerminalState) (c : Char) : TerminalState :=
  if c < ' ' ∨ '\x7f' ≤ c then s
  else if c < '0' then deviceIntermediate
  else if c < '@' ∧ s = device then deviceParameter
  else if c < '<' ∧ s = deviceParameter then deviceParameter
  else string

/-- Whether a character has the octet of the string terminator in it. -/
def endsString (c : Char) : Bool :=
  (String.utf8EncodeChar c).contains 0x9C

/-- The state behind a character. -/
def after (s : TerminalState) (c : Char) : TerminalState :=
  if c = '\x1b' then escape
  else if c = '\x18' ∨ c = '\x1a' then ground
  else
    match s with
    | ground => ground
    | escape => afterEscape c
    | intermediate => if '0' ≤ c ∧ c < '\x7f' then ground else intermediate
    | control => if '@' ≤ c ∧ c < '\x7f' then ground else control
    | device | deviceParameter | deviceIntermediate => s.afterDevice c
    | string => if endsString c then ground else string
    | command => if c = '\x07' then ground else command

/-- Whether a character is shown where no sequence is read. -/
def isShown (c : Char) : Bool :=
  (' ' ≤ c && c != '\x7f') || isSpace c

/-- Whether a character is shown that is read in a state. -/
def shows (s : TerminalState) (c : Char) : Bool :=
  match s with
  | ground => isShown c
  | escape | intermediate | control => isSpace c && c != ' '
  | device | deviceParameter | deviceIntermediate | string | command => false

end TerminalState

/-- The characters that are shown. A sequence that white space interrupts goes on at the next
control character. -/
def shownChars (s : TerminalState) (interrupted : Bool) : List Char → List Char
  | [] => []
  | c :: rest =>
    if interrupted && TerminalState.isShown c then
      c :: shownChars (if c.toNat < 0x80 then s else .ground) true rest
    else if s.shows c then c :: shownChars s true rest
    else shownChars (s.after c) false rest

/-- What a text is without what commands a terminal. -/
def shown (s : String) : String :=
  String.ofList (shownChars .ground false s.toList)

end Intake.Text
