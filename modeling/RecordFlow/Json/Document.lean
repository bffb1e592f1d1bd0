import RecordFlow.Json.Token

/-!
# Reading JSON text as far as it goes

A document is the tree of a JSON text up to the first place where the text stops being
JSON, which is marked `broken`.  A reader that walks the tree in document order so
meets the problems of a text in the order in which they stand there, whether they are
problems of form or of meaning.

The tree is assembled from tokens with a stack of the containers that are still open.
-/

namespace RecordFlow.Json

/-- A JSON text as far as it is well formed. -/
inductive Document where
  | null
  | bool (b : Bool)
  /-- The value is absent when the number is out of range. -/
  | number (value : Option Number)
  /-- The text is absent when the string is not proper Unicode. -/
  | text (value : Option String)
  | array (items : List Document)
  /-- A member is its name, which is a `text` unless the text stops being JSON there, and
  its value. -/
  | object (members : List (Document × Document))
  /-- Here the text stops being JSON. -/
  | broken
  deriving Inhabited

/-- The bytes of an escaped code unit and of the pieces after it.  A surrogate needs its
partner right behind it. -/
def bytesOfPieces : List Piece → Option Bytes
  | [] => some []
  | .raw b :: rest => (bytesOfPieces rest).map (b :: ·)
  | .escaped high :: rest =>
    if 0xD800 ≤ high && high ≤ 0xDBFF then
      match rest with
      | .escaped low :: rest =>
        if 0xDC00 ≤ low && low ≤ 0xDFFF then
          let c := Char.ofNat (0x10000 + (high - 0xD800) * 0x400 + (low - 0xDC00))
          (bytesOfPieces rest).map (String.utf8EncodeChar c ++ ·)
        else none
      | _ => none
    else if 0xDC00 ≤ high && high ≤ 0xDFFF then none
    else (bytesOfPieces rest).map (String.utf8EncodeChar (Char.ofNat high) ++ ·)

def textOfPieces? (pieces : List Piece) : Option String :=
  (bytesOfPieces pieces).bind Utf8.decode?

/-- A container that is still open, with the parts read so far, the latest first. -/
inductive Frame where
  /-- An opening bracket was read. -/
  | arrayStart
  /-- A comma was read: an item must follow. -/
  | arrayItem (done : List Document)
  /-- An item was read: a comma or the end must follow. -/
  | arrayNext (done : List Document)
  /-- An opening brace was read. -/
  | objectStart
  /-- A comma was read: a name must follow. -/
  | objectName (done : List (Document × Document))
  /-- A name was read: a colon must follow. -/
  | objectColon (done : List (Document × Document)) (name : Document)
  /-- A colon was read: a value must follow. -/
  | objectValue (done : List (Document × Document)) (name : Document)
  /-- A value was read: a comma or the end must follow. -/
  | objectNext (done : List (Document × Document))

/-- The container as it stands when its last part is `last`, and nothing follows. -/
def Frame.endWith (last : Document) : Frame → Document
  | .arrayStart => .array [last]
  | .arrayItem done | .arrayNext done => .array (done.reverse ++ [last])
  | .objectStart => .object [(last, .broken)]
  | .objectName done | .objectNext done => .object (done.reverse ++ [(last, .broken)])
  | .objectColon done name | .objectValue done name =>
    .object (done.reverse ++ [(name, last)])

/-- The document when reading ends inside open containers, innermost first. -/
def stopWith (last : Document) (frames : List Frame) : Document :=
  frames.foldl Frame.endWith last

/-- How far a document has been assembled. -/
inductive Assembly where
  /-- Containers are open, innermost first; with none, the document has not begun. -/
  | inside (frames : List Frame)
  | finished (document : Document)
  /-- The text is not JSON; nothing further is read. -/
  | stopped (document : Document)

/-- The text stops being JSON here. -/
def Assembly.giveUp (last : Document) (frames : List Frame) : Assembly :=
  .stopped (stopWith last frames)

/-- Put a complete value into the innermost container. -/
def Assembly.accept (value : Document) : List Frame → Assembly
  | [] => .finished value
  | .arrayStart :: frames => .inside (.arrayNext [value] :: frames)
  | .arrayItem done :: frames => .inside (.arrayNext (value :: done) :: frames)
  | .objectValue done name :: frames => .inside (.objectNext ((name, value) :: done) :: frames)
  | frames => giveUp .broken frames

/-- Put a string where a value or a name belongs. -/
def Assembly.acceptText (value : Document) : List Frame → Assembly
  | .objectStart :: frames => .inside (.objectColon [] value :: frames)
  | .objectName done :: frames => .inside (.objectColon done value :: frames)
  | frames => accept value frames

def Assembly.descend (frame : Frame) : List Frame → Assembly
  | [] => .inside [frame]
  | .arrayStart :: frames => .inside (frame :: .arrayStart :: frames)
  | .arrayItem done :: frames => .inside (frame :: .arrayItem done :: frames)
  | .objectValue done name :: frames => .inside (frame :: .objectValue done name :: frames)
  | frames => giveUp .broken frames

/-- Read one token inside open containers. -/
def Assembly.read (frames : List Frame) : Token → Assembly
  | .null => accept .null frames
  | .bool b => accept (.bool b) frames
  | .number literal => accept (.number literal.value?) frames
  | .text pieces => acceptText (.text (textOfPieces? pieces)) frames
  | .openBracket => descend .arrayStart frames
  | .openBrace => descend .objectStart frames
  | .closeBracket =>
    match frames with
    | .arrayStart :: frames => accept (.array []) frames
    | .arrayNext done :: frames => accept (.array done.reverse) frames
    | frames => giveUp .broken frames
  | .closeBrace =>
    match frames with
    | .objectStart :: frames => accept (.object []) frames
    | .objectNext done :: frames => accept (.object done.reverse) frames
    | frames => giveUp .broken frames
  | .comma =>
    match frames with
    | .arrayNext done :: frames => .inside (.arrayItem done :: frames)
    | .objectNext done :: frames => .inside (.objectName done :: frames)
    | frames => giveUp .broken frames
  | .colon =>
    match frames with
    | .objectColon done name :: frames => .inside (.objectValue done name :: frames)
    | frames => giveUp .broken frames
  | .broken => giveUp .broken frames

/-- Read one token.  A document that is complete must not be followed by another
token. -/
def Assembly.step (assembly : Assembly) (token : Token) : Assembly :=
  match assembly with
  | .inside frames => read frames token
  | .finished document => .stopped document
  | .stopped document => .stopped document

/-- What reading a whole text gives. -/
structure Reading where
  document : Document
  /-- The text is one JSON value and nothing else. -/
  complete : Bool

def Reading.ofTokens (tokens : List Token) : Reading :=
  match tokens.foldl Assembly.step (.inside []) with
  | .inside frames => ⟨stopWith .broken frames, false⟩
  | .finished document => ⟨document, true⟩
  | .stopped document => ⟨document, false⟩

def Reading.ofBytes (bytes : Bytes) : Reading :=
  ofTokens (tokens bytes)

end RecordFlow.Json
