import RecordFlow.Url.LocalFile

/-!
# Reading URLs

An absolute URL is read from text in the order of its parts.
-/

namespace RecordFlow.Url

def readPath (scheme : String) (text : List Char) : Path :=
  let isSpecial := isSpecialScheme scheme
  match text with
  | '/' :: rest => .segments (readSegments isSpecial rest)
  | '\\' :: rest => .segments (readSegments isSpecial (if isSpecial then rest else '\\' :: rest))
  | [] => .segments (if isSpecial then [[]] else [])
  | text => .segments (readSegments isSpecial text)

/-- The text before the first character of a kind, and the text after it. -/
def cutMark (mark : Char) (text : List Char) : List Char × Option (List Char) :=
  match text.dropWhile (· != mark) with
  | [] => (text, none)
  | _ :: after => (text.takeWhile (· != mark), some after)

/-- Cut off query and fragment, and encode them. -/
def cutTail (scheme : String) (text : List Char) :
    List Char × Option (List Char) × Option (List Char) :=
  let (text, fragment) := cutMark '#' text
  let (text, query) := cutMark '?' text
  let querySet := if isSpecialScheme scheme then inSpecialQuerySet else inQuerySet
  (text, query.map fun query => percentEncode querySet (visible query),
    fragment.map fun fragment => percentEncode inFragmentSet (visible fragment))

/-- The URL of a scheme other than `file`, given what follows the slashes before its
authority. -/
def readAfterSlashes (scheme : String) (isFollowed : Bool) (text : List Char) :
    Except ParseFault Url :=
  let ends := endsAuthority (isSpecialScheme scheme)
  let path := text.dropWhile fun c => !ends c
  match readAuthority scheme (isFollowed || !path.isEmpty) (text.takeWhile fun c => !ends c) with
  | .error fault => .error fault
  | .ok (url, rest) => .ok { url with path := readPath scheme (rest ++ path) }

/-- The URL after a scheme that is not `file`, without query and fragment; `isFollowed`
says whether it has one of them. -/
def readHierarchy (scheme : String) (isFollowed : Bool) (text : List Char) :
    Except ParseFault Url :=
  if isSpecialScheme scheme then
    readAfterSlashes scheme isFollowed (text.dropWhile fun c => c == '/' || c == '\\')
  else
    match text with
    | '/' :: '/' :: rest => readAfterSlashes scheme isFollowed rest
    | '/' :: _ =>
      let path := readPath scheme text
      .ok { scheme, path, guarded := path.startsEmpty }
    | text => .ok { scheme, path := .bare (String.ofList (percentEncode inControlSet text)) }

def parse (text : String) : Except ParseFault Url :=
  match scanScheme? (trimmed text.toList) with
  | none => .error .relative
  | some (scheme, rest) =>
    let (rest, query, fragment) := cutTail scheme rest
    let found :=
      if scheme == "file" then readFile rest
      else readHierarchy scheme (query.isSome || fragment.isSome) (visible rest)
    match found with
    | .error fault => .error fault
    | .ok url => .ok { url with query, fragment }

end RecordFlow.Url
