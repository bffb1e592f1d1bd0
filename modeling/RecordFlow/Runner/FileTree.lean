import RecordFlow.Runner.Job

/-!
# Trees of files

Files and directories as a value, and what a path leads to.  A path is walked from left to
right: what stands before a slash must be a directory.
-/

namespace RecordFlow.Runner

/-- What a path can lead to. -/
inductive FileEntry where
  | file (content : Bytes)
  | directory

/-- Files and directories, each under the names on the way to it from the root, and the
directory where relative paths start. -/
structure FileTree where
  entries : List (List String × FileEntry)
  current : List String

namespace FileTree

/-- A path has fewer bytes than this. -/
def pathLimit : Nat := 4096

def nameLimit : Nat := 255

/-- The names in a path, with an empty one where slashes meet. -/
def namesOf (path : String) : List String :=
  (path.toList.splitOn '/').map String.ofList

def follow (tree : FileTree) (place : List String) (name : String) :
    Except FileFault (List String) :=
  match tree.entries.lookup place with
  | some .directory =>
    if name.isEmpty || name == "." then .ok place
    else if name == ".." then .ok place.dropLast
    else if nameLimit < name.utf8ByteSize then .error .nameTooLong
    else if (tree.entries.lookup (place ++ [name])).isSome then .ok (place ++ [name])
    else .error .notFound
  | _ => .error .notDirectory

def place (tree : FileTree) (path : String) : Except FileFault (List String) :=
  if pathLimit ≤ path.utf8ByteSize then .error .nameTooLong
  else if path.isEmpty then .error .notFound
  else (namesOf path).foldlM tree.follow (if path.startsWith "/" then [] else tree.current)

def content (tree : FileTree) (path : String) : Except FileFault Bytes :=
  match tree.place path with
  | .error fault => .error fault
  | .ok place =>
    match tree.entries.lookup place with
    | some (.file content) => .ok content
    | _ => .error .isDirectory

end FileTree

end RecordFlow.Runner
