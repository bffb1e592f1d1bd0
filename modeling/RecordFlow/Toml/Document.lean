import RecordFlow.Toml.Number
import RecordFlow.Toml.Quoted
import RecordFlow.Toml.Table

/-!
# Reading documents

A document is a sequence of lines: headers, assignments, comments and blank lines.
Arrays may span lines and hold comments, inline tables may not.  Fewer than eighty
arrays and inline tables may be nested, and a dotted key has fewer than eighty names.
-/

namespace RecordFlow.Toml

/-- The most names in a dotted key, and the most containers around a value. -/
def nestingLimit : Nat := 79

def skipBlank (text : List Char) : List Char := text.dropWhile isBlankChar

/-! ### Keys -/

def isBareKeyChar (c : Char) : Bool := c.isAlphanum || c == '-' || c == '_'

def scanName? (text : List Char) : Option (String × List Char) :=
  match text with
  | '"' :: rest => (scanBasic rest).map fun (cs, left) => (String.ofList cs, left)
  | '\'' :: rest => (scanLiteral rest).map fun (cs, left) => (String.ofList cs, left)
  | _ =>
    let bare := text.takeWhile isBareKeyChar
    if bare.isEmpty then none else some (String.ofList bare, text.drop bare.length)

/-- A key of at most `limit` names at the front, with the blanks around it. -/
def scanKey? : Nat → List Char → Option (DottedKey × List Char)
  | 0, _ => none
  | limit + 1, text => do
    let (name, rest) ← scanName? (skipBlank text)
    match skipBlank rest with
    | '.' :: rest =>
      let (key, rest) ← scanKey? limit rest
      pure ({ key with path := name :: key.path }, rest)
    | rest => pure (⟨[], name⟩, rest)

/-! ### Values -/

def skipLayout (inComment : Bool) : List Char → List Char
  | [] => []
  | '\r' :: '\n' :: rest => skipLayout false rest
  | c :: rest =>
    if c == '\n' then skipLayout false rest
    else if inComment then if isPlain c then skipLayout true rest else c :: rest
    else if c == '#' then skipLayout true rest
    else if isBlankChar c then skipLayout false rest
    else c :: rest

def scanNumeric? (text : List Char) : Option (Toml × List Char) :=
  match scanDatetime? .strict text with
  | some (d, rest) => some (.datetime d, rest)
  | none =>
    match scanFloat? text with
    | some (x, rest) => some (.float x, rest)
    | none => (scanInteger? text).map fun (i, rest) => (.integer i, rest)

/-- A value without nested values at the front. -/
def scanScalar? (text : List Char) : Option (Toml × List Char) :=
  match text with
  | 't' :: 'r' :: 'u' :: 'e' :: rest => some (.boolean true, rest)
  | 'f' :: 'a' :: 'l' :: 's' :: 'e' :: rest => some (.boolean false, rest)
  | '"' :: _ | '\'' :: _ =>
    (scanString? text).map fun (cs, rest) => (.string (String.ofList cs), rest)
  | _ => scanNumeric? text

def dropEquals? : List Char → Option (List Char)
  | '=' :: rest => some (skipBlank rest)
  | _ => none

mutual

/-- A value at the front, inside of which `depth` more containers may be nested. -/
def scanValue? : Nat → Nat → List Char → Option (Toml × List Char)
  | 0, _, _ => none
  | fuel + 1, depth, text =>
    match text, depth with
    | '[' :: _, 0 | '\x7b' :: _, 0 => none
    | '[' :: rest, depth + 1 =>
      (scanItems? fuel depth rest).map fun (items, left) => (.array items, left)
    | '\x7b' :: rest, depth + 1 =>
      match skipBlank rest with
      | '\x7d' :: left => some (.table [], left)
      | rest =>
        (scanPairs? fuel depth [] rest).map fun (nodes, left) =>
          (.table (freezeMembers nodes), left)
    | _, _ => scanScalar? text

/-- The rest of an array after its bracket or after a comma. -/
def scanItems? : Nat → Nat → List Char → Option (List Toml × List Char)
  | 0, _, _ => none
  | fuel + 1, depth, text =>
    match skipLayout false text with
    | ']' :: left => some ([], left)
    | front =>
      match scanValue? fuel depth front with
      | none => none
      | some (item, after) =>
        match skipLayout false after with
        | ',' :: rest =>
          (scanItems? fuel depth rest).map fun (items, left) => (item :: items, left)
        | ']' :: left => some ([item], left)
        | _ => none

/-- The rest of an inline table after its brace or after a comma. -/
def scanPairs? : Nat → Nat → Nodes → List Char → Option (Nodes × List Char)
  | 0, _, _, _ => none
  | fuel + 1, depth, nodes, text =>
    match scanKey? nestingLimit text with
    | none => none
    | some (key, after) =>
      match (dropEquals? after).bind (scanValue? fuel depth) with
      | none => none
      | some (v, after) =>
        match nodes.assign key v, skipBlank after with
        | some nodes, ',' :: rest => scanPairs? fuel depth nodes rest
        | some nodes, '\x7d' :: left => some (nodes, left)
        | _, _ => none

end

/-- A value at the front.  No step of reading it leaves the text as it is twice in a
row, so twice its length bounds the steps. -/
def scanTopValue? (text : List Char) : Option (Toml × List Char) :=
  scanValue? (2 * text.length + 2) nestingLimit text

/-! ### Lines -/

/-- The text after the end of a line, which blanks and a comment may precede. -/
def scanLineEnd? (text : List Char) : Option (List Char) :=
  let rest :=
    match skipBlank text with
    | '#' :: rest => rest.dropWhile isPlain
    | rest => rest
  match rest with
  | [] => some []
  | rest => dropLineBreak? rest

/-- A header after its opening brackets, up to the end of its line. -/
def scanHeader? (isItem : Bool) (text : List Char) : Option (Statement × List Char) := do
  let (key, rest) ← scanKey? nestingLimit text
  match isItem, rest with
  | false, ']' :: rest => pure (.table key, ← scanLineEnd? rest)
  | true, ']' :: ']' :: rest => pure (.item key, ← scanLineEnd? rest)
  | _, _ => none

/-- An assignment, up to the end of its line. -/
def scanAssignment? (text : List Char) : Option (Statement × List Char) := do
  let (key, rest) ← scanKey? nestingLimit text
  let (v, rest) ← scanTopValue? (← dropEquals? rest)
  pure (.assign key v, ← scanLineEnd? rest)

/-- Read statements; each takes at least one character. -/
def scanStatements? : Nat → List Char → Option (List Statement)
  | 0, _ => none
  | fuel + 1, text =>
    match skipBlank text with
    | [] => some []
    | '[' :: '[' :: rest => do
      let (statement, rest) ← scanHeader? true rest
      pure (statement :: (← scanStatements? fuel rest))
    | '[' :: rest => do
      let (statement, rest) ← scanHeader? false rest
      pure (statement :: (← scanStatements? fuel rest))
    | c :: rest =>
      match if c == '#' || c == '\n' || c == '\r' then scanLineEnd? (c :: rest) else none with
      | some rest => scanStatements? fuel rest
      | none => do
        let (statement, rest) ← scanAssignment? (c :: rest)
        pure (statement :: (← scanStatements? fuel rest))

/-- The text without a byte order mark. -/
def dropMark : List Char → List Char
  | c :: rest => if c.toNat = 0xFEFF then rest else c :: rest
  | [] => []

/-- The table of a whole document. -/
def parse? (text : String) : Option Toml :=
  let chars := dropMark text.toList
  ((scanStatements? (chars.length + 1) chars).bind membersOf?).map .table

end RecordFlow.Toml
