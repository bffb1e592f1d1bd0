import RecordFlow.Url.Authority

/-!
# URLs of local files

A local file's URL has a host that may be empty, and a path that may begin with a drive.
The drive is a letter and a colon, for which a bar may stand in the text; a URL whose path
begins so has no host.
-/

namespace RecordFlow.Url

/-- The path of a local file while it is read. -/
structure FilePath where
  parts : List (List Char)
  /-- The path begins with a drive that stood as a segment of its own. -/
  hasDrive : Bool := false
  deriving DecidableEq, Repr

/-- A drive with a break behind it, and the visible text that follows: the break parts the
two as a slash does. -/
def cutDrive? (segment : List Char) : Option (List Char × List Char) :=
  match visible (segment.takeWhile (· != ':')), segment.dropWhile (· != ':') with
  | [letter], ':' :: c :: rest =>
    if letter.isAlpha && isBreak c && !(visible rest).isEmpty then
      some ([letter, ':'], visible rest)
    else none
  | _, _ => none

/-- Add a first segment, which still has its breaks.  What a break parts from a drive is
taken as it stands. -/
def FilePath.addFirst (last : Bool) (path : FilePath) (segment : List Char) : FilePath :=
  match cutDrive? segment with
  | some (drive, rest) => { path with parts := [drive, percentEncode inPathSet rest] }
  | none =>
    if isDriveLetter (visible segment) then
      { parts := [(visible segment).take 1 ++ [':']], hasDrive := true }
    else { path with parts := addSegment last [] (visible segment) }

/-- Add a segment, which still has its breaks. -/
def FilePath.add (last : Bool) (path : FilePath) (segment : List Char) : FilePath :=
  if path.parts.isEmpty then path.addFirst last segment
  else { path with parts := addSegment last path.parts (visible segment) }

/-- A path for a local file has no empty segments in front. -/
def dropEmptyFront : List (List Char) → List (List Char)
  | [] :: part :: rest => dropEmptyFront (part :: rest)
  | parts => parts

/-- Read a path after the segments that are there already. -/
def FilePath.read (parts : List (List Char)) (text : List Char) : FilePath :=
  let segments := cutAt (fun c => c == '/' || c == '\\') text
  let path := addSegments FilePath.add segments { parts }
  { path with parts := dropEmptyFront path.parts }

def afterSlash? (text : List Char) : Option (List Char) :=
  match text.dropWhile isBreak with
  | '/' :: rest | '\\' :: rest => some rest
  | _ => none

def ofFilePath (host : Host) (path : FilePath) : Url :=
  { scheme := "file", host := some (if path.hasDrive then .domain "" else host),
    path := .segments path.parts }

/-- The URL of a local file, given what follows its scheme and two slashes: a host, which
may be absent, and a path.  An absent host leaves an empty segment in front of the path,
and a drive letter in the host's place belongs to the path. -/
def readAfterFileSlashes (text : List Char) : Except ParseFault Url :=
  let host := visible (text.takeWhile fun c => !endsAuthority true c)
  let rest := text.dropWhile fun c => !endsAuthority true c
  let rest := (afterSlash? rest).getD rest
  let hostless := ofFilePath (.domain "") (.read [[]] rest)
  if isDriveLetter host then .ok (ofFilePath (.domain "") (.read [] text))
  else if host.isEmpty then .ok hostless
  else
    match readHost true host with
    | .error fault => .error fault
    | .ok (.domain "localhost") => .ok hostless
    | .ok host => .ok (ofFilePath host (.read [] rest))

def readFile (text : List Char) : Except ParseFault Url :=
  match (afterSlash? text).bind afterSlash? with
  | some rest => readAfterFileSlashes rest
  | none => .ok (ofFilePath (.domain "") (.read [] ((afterSlash? text).getD text)))

end RecordFlow.Url
