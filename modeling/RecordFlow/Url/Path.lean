import RecordFlow.Url.Percent

/-!
# URL paths

A path is a list of segments.  Segments of one or two dots are resolved while the path
is read: the former are dropped, the latter take the segment before them away, unless it
is a drive.
-/

namespace RecordFlow.Url

/-- What follows a URL's host. -/
inductive Path where
  /-- A path that does not start with a slash; nothing can be appended to it. -/
  | bare (text : String)
  | segments (parts : List (List Char))
  deriving DecidableEq, Repr

/-- A dot, which may be percent-encoded: the rest after it. -/
def dropDot? : List Char → Option (List Char)
  | '.' :: rest => some rest
  | '%' :: '2' :: 'e' :: rest | '%' :: '2' :: 'E' :: rest => some rest
  | _ => none

def isSingleDot (segment : List Char) : Bool := dropDot? segment == some []

def isDoubleDot (segment : List Char) : Bool := (dropDot? segment).bind dropDot? == some []

/-- A letter and a colon or a bar. -/
def isDriveLetter : List Char → Bool
  | [letter, mark] => letter.isAlpha && (mark == ':' || mark == '|')
  | _ => false

/-- A drive, with what a backslash may set off after it. -/
def isDrive (segment : List Char) : Bool :=
  isDriveLetter (segment.takeWhile (· != '\\'))

/-- Take the last segment away; a drive stays. -/
def shorten (parts : List (List Char)) : List (List Char) :=
  match parts.getLast? with
  | some part => if isDrive part then parts else parts.dropLast
  | none => []

/-- Add a segment.  `last` says that no slash follows it. -/
def addSegment (last : Bool) (parts : List (List Char)) (segment : List Char) :
    List (List Char) :=
  if isDoubleDot segment then
    let parts := shorten parts
    if last then parts ++ [[]] else parts
  else if isSingleDot segment then
    if last then parts ++ [[]] else parts
  else parts ++ [percentEncode inPathSet segment]

def cutAt (isMark : Char → Bool) (text : List Char) : List (List Char) :=
  text.foldr (fun c parts =>
    if isMark c then [] :: parts
    else
      match parts with
      | [] => [[c]]
      | part :: rest => (c :: part) :: rest) [[]]

/-- Add segments in order.  The function that adds one is told whether it is the last. -/
def addSegments {α : Type} (add : Bool → α → List Char → α) : List (List Char) → α → α
  | [], path => path
  | [segment], path => add true path segment
  | segment :: segments, path => addSegments add segments (add false path segment)

/-- Read the segments of a path, given the text after its first slash. -/
def readSegments (isSpecial : Bool) (text : List Char) : List (List Char) :=
  let isMark c := c == '/' || (isSpecial && c == '\\')
  addSegments addSegment (cutAt isMark text) []

/-- Whether the path starts with two slashes. -/
def Path.startsEmpty : Path → Bool
  | segments ([] :: _ :: _) => true
  | _ => false

def renderSegments (parts : List (List Char)) : List Char :=
  parts.flatMap ('/' :: ·)

/-- Append a segment; an empty segment at the end, which a trailing slash leaves, makes
room for it. -/
def appendSegment (parts : List (List Char)) (segment : List Char) : List (List Char) :=
  let kept := if 1 < parts.length && parts.getLast? == some [] then parts.dropLast else parts
  if kept == [[]] then [segment] else kept ++ [segment]

end RecordFlow.Url
