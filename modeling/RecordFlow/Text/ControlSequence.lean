/-!
# Control sequences

A terminal takes an escape and some characters after it as a command.  Where no terminal
reads along, a text is shown without such sequences and without controls other than
blanks and line breaks.
-/

namespace RecordFlow.Text

/-- Where a text stands in a control sequence. -/
inductive Sequence where
  | outside
  /-- An escape was read. -/
  | escape
  /-- An escape and an intermediate character were read. -/
  | intermediate
  /-- An escape and a bracket were read: a letter ends the sequence. -/
  | parameters
  /-- A command for the system: a bell ends it. -/
  | command
  /-- What begins a string for the device. -/
  | device
  /-- Parameters of such a string were read. -/
  | deviceParameters
  /-- An intermediate character of such a string was read. -/
  | deviceIntermediate
  /-- A string: another escape ends it, and so does the terminator. -/
  | string
  deriving DecidableEq, Repr

/-- Blanks and line breaks of ASCII other than the space. -/
def isLayoutControl (c : Char) : Bool := ['\t', '\n', '\x0c', '\r'].contains c

/-- Characters that are shown outside of sequences. -/
def isDisplayed (c : Char) : Bool := isLayoutControl c || (0x20 ≤ c.toNat && c.toNat ≠ 0x7F)

namespace Sequence

/-- Whether a character that is read in a sequence is shown. -/
def displays : Sequence → Char → Bool
  | outside, c => isDisplayed c
  | escape, c | intermediate, c | parameters, c => isLayoutControl c
  | _, _ => false

/-- The sequence after an escape and one more character. -/
def afterEscape (c : Char) : Sequence :=
  if c = '[' then parameters
  else if c = ']' then command
  else if c = 'P' then device
  else if ['X', '^', '_'].contains c then string
  else if '0' ≤ c && c ≤ '~' then outside
  else if ' ' ≤ c && c ≤ '/' then intermediate
  else escape

/-- The sequence after one more character of what begins a string for the device.  Marks
may stand only in front of the parameters. -/
def afterDevice (s : Sequence) (c : Char) : Sequence :=
  if '@' ≤ c && c ≤ '~' then string
  else if ' ' ≤ c && c ≤ '/' then deviceIntermediate
  else if '0' ≤ c && c ≤ ';' then deviceParameters
  else if '<' ≤ c && c ≤ '?' then if s = device then deviceParameters else string
  else s

/-- Whether the terminator of strings is among the bytes of a character. -/
def holdsTerminator (c : Char) : Bool := (String.utf8EncodeChar c).contains 0x9C

/-- The sequence after one more character.  Wherever it stands, an escape begins a new
sequence, and two other controls break one off. -/
def next (s : Sequence) (c : Char) : Sequence :=
  if c = '\x1b' then escape
  else if c = '\x18' || c = '\x1a' then outside
  else
    match s with
    | outside => outside
    | escape => afterEscape c
    | intermediate => if '0' ≤ c && c ≤ '~' then outside else intermediate
    | parameters => if '@' ≤ c && c ≤ '~' then outside else parameters
    | command => if c = '\x07' then outside else command
    | device | deviceParameters => afterDevice s c
    | deviceIntermediate => if '0' ≤ c && c ≤ '~' then string else deviceIntermediate
    | string => if holdsTerminator c then outside else string

end Sequence

/-- The characters of a text that are shown.  A blank or line break inside of a sequence
suspends it up to the next control. -/
def displayedFrom (s : Sequence) (suspended : Bool) : List Char → List Char
  | [] => []
  | c :: rest =>
    if suspended && isDisplayed c then
      c :: displayedFrom (if c.toNat < 0x80 then s else .outside) true rest
    else if s.displays c then c :: displayedFrom (s.next c) (s != .outside) rest
    else displayedFrom (s.next c) false rest

def displayed (text : String) : String :=
  String.ofList (displayedFrom .outside false text.toList)

end RecordFlow.Text
