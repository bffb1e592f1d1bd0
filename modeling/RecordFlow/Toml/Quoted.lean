import RecordFlow.Text.Hexadecimal

/-!
# Strings

A string is basic or literal, on one line or on several.  Basic strings have escapes;
a literal string holds its characters as they stand.  Strings on several lines are
enclosed in three quotes, lose a line break right after the opening quotes, and have
every line break read as a line feed.
-/

namespace RecordFlow.Toml

/-- Characters that may stand in strings and comments as they are: all but the controls
other than the tab. -/
def isPlain (c : Char) : Bool :=
  c == '\t' || (0x20 ≤ c.toNat && c.toNat != 0x7F)

def isBlankChar (c : Char) : Bool := c == ' ' || c == '\t'

def dropLineBreak? : List Char → Option (List Char)
  | '\n' :: rest => some rest
  | '\r' :: '\n' :: rest => some rest
  | _ => none

def unicodeChar? (digits : List Char) : Option Char :=
  let value? := digits.foldlM (fun n c => (Text.hexDigit? c).map fun d => n * 16 + d) 0
  value?.bind fun (n : Nat) =>
    if h : n.isValidChar then some (Char.ofNatAux n h) else none

/-- The character of an escape with a fixed number of hexadecimal digits. -/
def scanUnicode? (n : Nat) (text : List Char) : Option (Char × List Char) :=
  if n ≤ text.length then (unicodeChar? (text.take n)).map fun c => (c, text.drop n)
  else none

/-- The character of an escape, given the text after the backslash. -/
def scanEscape? : List Char → Option (Char × List Char)
  | 'b' :: rest => some ('\x08', rest)
  | 'f' :: rest => some ('\x0c', rest)
  | 'n' :: rest => some ('\n', rest)
  | 'r' :: rest => some ('\r', rest)
  | 't' :: rest => some ('\t', rest)
  | '"' :: rest => some ('"', rest)
  | '\\' :: rest => some ('\\', rest)
  | 'u' :: rest => scanUnicode? 4 rest
  | 'U' :: rest => scanUnicode? 8 rest
  | _ => none

theorem length_of_scanUnicode? {n : Nat} {text rest : List Char} {c : Char}
    (h : scanUnicode? n text = some (c, rest)) : rest.length ≤ text.length := by
  unfold scanUnicode? at h
  split at h
  · obtain ⟨_, _, heq⟩ := Option.map_eq_some_iff.1 h
    simp only [Prod.mk.injEq] at heq
    simp [← heq.2]
  · simp at h

theorem length_of_scanEscape? {text rest : List Char} {c : Char}
    (h : scanEscape? text = some (c, rest)) : rest.length < text.length := by
  unfold scanEscape? at h
  split at h
  case h_8 | h_9 =>
    have := length_of_scanUnicode? h
    simp only [List.length_cons]
    omega
  all_goals simp_all

def scanBasic (text : List Char) : Option (List Char × List Char) :=
  match text with
  | [] => none
  | '"' :: rest => some ([], rest)
  | '\\' :: rest =>
    match h : scanEscape? rest with
    | none => none
    | some (c, after) =>
      have : after.length < rest.length := length_of_scanEscape? h
      (scanBasic after).map fun (cs, left) => (c :: cs, left)
  | c :: rest =>
    if isPlain c then (scanBasic rest).map fun (cs, left) => (c :: cs, left) else none
termination_by text.length

def scanLiteral : List Char → Option (List Char × List Char)
  | [] => none
  | '\'' :: rest => some ([], rest)
  | c :: rest =>
    if isPlain c then (scanLiteral rest).map fun (cs, left) => (c :: cs, left) else none

/-- After three closing quotes, up to two more quotes belong to the string. -/
def extraQuotes (quote : Char) : List Char → List Char × List Char
  | a :: b :: rest =>
    if a == quote && b == quote then ([a, b], rest)
    else if a == quote then ([a], b :: rest)
    else ([], a :: b :: rest)
  | [a] => if a == quote then ([a], []) else ([], [a])
  | [] => ([], [])

/-- The text after a backslash that ends its line: white space and line breaks up to the
next character are skipped. -/
def dropLineEnd? (text : List Char) : Option (List Char) :=
  (dropLineBreak? (text.dropWhile isBlankChar)).map skip
where
  /-- Skip white space and line breaks. -/
  skip : List Char → List Char
    | '\r' :: '\n' :: rest => skip rest
    | c :: rest => if isBlankChar c || c == '\n' then skip rest else c :: rest
    | [] => []

theorem length_dropLineEnd?_skip (text : List Char) :
    (dropLineEnd?.skip text).length ≤ text.length := by
  fun_induction dropLineEnd?.skip text with
  | case1 rest ih =>
    simp only [List.length_cons]
    omega
  | case2 c rest _ _ ih =>
    simp only [List.length_cons]
    omega
  | case3 => exact Nat.le_refl _
  | case4 => exact Nat.le_refl _

theorem length_of_dropLineBreak? {text rest : List Char}
    (h : dropLineBreak? text = some rest) : rest.length < text.length := by
  unfold dropLineBreak? at h
  split at h
  · cases h
    exact Nat.lt_succ_self _
  · cases h
    simp only [List.length_cons]
    omega
  · cases h

theorem length_of_dropLineEnd? {text rest : List Char}
    (h : dropLineEnd? text = some rest) : rest.length < text.length := by
  obtain ⟨after, hafter, rfl⟩ := Option.map_eq_some_iff.1 h
  have hbreak := length_of_dropLineBreak? hafter
  have hskip := length_dropLineEnd?_skip after
  have hblank := (List.dropWhile_suffix isBlankChar (l := text)).length_le
  omega

/-- The rest of a basic string on several lines after its opening quotes. -/
def scanBasicLines (text : List Char) : Option (List Char × List Char) :=
  match text with
  | [] => none
  | '"' :: '"' :: '"' :: rest => some (extraQuotes '"' rest)
  | '\r' :: '\n' :: rest => (scanBasicLines rest).map fun (cs, left) => ('\n' :: cs, left)
  | '\\' :: rest =>
    match hend : dropLineEnd? rest with
    | some after =>
      have : after.length < rest.length := length_of_dropLineEnd? hend
      scanBasicLines after
    | none =>
      match hesc : scanEscape? rest with
      | none => none
      | some (c, after) =>
        have : after.length < rest.length := length_of_scanEscape? hesc
        (scanBasicLines after).map fun (cs, left) => (c :: cs, left)
  | c :: rest =>
    if isPlain c || c == '\n' then
      (scanBasicLines rest).map fun (cs, left) => (c :: cs, left)
    else none
termination_by text.length

/-- The rest of a literal string on several lines after its opening quotes. -/
def scanLiteralLines : List Char → Option (List Char × List Char)
  | [] => none
  | '\'' :: '\'' :: '\'' :: rest => some (extraQuotes '\'' rest)
  | '\r' :: '\n' :: rest => (scanLiteralLines rest).map fun (cs, left) => ('\n' :: cs, left)
  | c :: rest =>
    if isPlain c || c == '\n' then
      (scanLiteralLines rest).map fun (cs, left) => (c :: cs, left)
    else none

/-- The text after a line break at the front, or all of it. -/
def skipLineBreak (text : List Char) : List Char := (dropLineBreak? text).getD text

def scanString? : List Char → Option (List Char × List Char)
  | '"' :: '"' :: '"' :: rest => scanBasicLines (skipLineBreak rest)
  | '"' :: rest => scanBasic rest
  | '\'' :: '\'' :: '\'' :: rest => scanLiteralLines (skipLineBreak rest)
  | '\'' :: rest => scanLiteral rest
  | _ => none

end RecordFlow.Toml
