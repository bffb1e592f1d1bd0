import RecordFlow.Text.Hexadecimal
import RecordFlow.Text.Utf8

/-!
# HTTP replies

A reply is read from all bytes that came over a connection until it was closed: a status
line, headers, and a body whose length is announced, or which comes in chunks, or which
ends with the connection.  A body that does not end as announced counts as empty.
-/

namespace RecordFlow.Http

structure Reply where
  status : UInt16
  body : Bytes
  deriving DecidableEq, Repr

/-- A line without its end, and the bytes after it. -/
def cutLine? : Bytes → Option (Bytes × Bytes)
  | [] => none
  | b :: rest =>
    if b == 0x0A then some ([], rest)
    else
      (cutLine? rest).map fun (line, after) =>
        (if b == 0x0D && line.isEmpty then [] else b :: line, after)

theorem length_of_cutLine? {bytes line rest : Bytes} (h : cutLine? bytes = some (line, rest)) :
    rest.length < bytes.length := by
  induction bytes generalizing line with
  | nil => simp [cutLine?] at h
  | cons b bytes ih =>
    rw [cutLine?] at h
    split at h
    · simp only [Option.some.injEq, Prod.mk.injEq] at h
      simp [h.2]
    · obtain ⟨⟨l, r⟩, hlr, heq⟩ := Option.map_eq_some_iff.1 h
      simp only [Prod.mk.injEq] at heq
      have := ih (heq.2 ▸ hlr)
      simp only [List.length_cons]
      omega

def ascii (bytes : Bytes) : List Char := bytes.map fun b => Char.ofNat b.toNat

def statusOf? (line : Bytes) : Option UInt16 :=
  match ascii line with
  | 'H' :: 'T' :: 'T' :: 'P' :: '/' :: '1' :: '.' :: _ :: ' ' :: a :: b :: c :: rest =>
    if [a, b, c].all Char.isDigit && (rest.isEmpty || rest.head? == some ' ') then
      some (UInt16.ofNat ([a, b, c].foldl (fun n d => n * 10 + (d.toNat - '0'.toNat)) 0))
    else none
  | _ => none

def trimBlank (text : List Char) : List Char :=
  let isBlank (c : Char) : Bool := c == ' ' || c == '\t'
  ((text.dropWhile isBlank).reverse.dropWhile isBlank).reverse

/-- A header: its name in lower case, and its value. -/
def headerOf? (line : Bytes) : Option (String × List Char) :=
  let text := ascii line
  match text.dropWhile (· != ':') with
  | [] => none
  | _ :: value =>
    some (String.ofList ((text.takeWhile (· != ':')).map Char.toLower), trimBlank value)

/-- Headers up to the empty line after them, and the bytes after it. -/
def scanHeaders? (bytes : Bytes) : Option (List (String × List Char) × Bytes) :=
  match h : cutLine? bytes with
  | none => none
  | some ([], rest) => some ([], rest)
  | some (line, rest) =>
    have : rest.length < bytes.length := length_of_cutLine? h
    match headerOf? line, scanHeaders? rest with
    | some header, some (headers, after) => some (header :: headers, after)
    | _, _ => none
termination_by bytes.length

/-- The value of digits in a base; absent when there are none. -/
def naturalIn? (base : Nat) (text : List Char) : Option Nat :=
  if text.isEmpty then none
  else
    text.foldlM (fun n c =>
      match Text.hexDigit? c with
      | some d => if d < base then some (n * base + d) else none
      | none => none) 0

/-- The bytes of chunks, up to a chunk of size zero. -/
def joinChunks? (bytes : Bytes) : Option Bytes :=
  match h : cutLine? bytes with
  | none => none
  | some (line, rest) =>
    have hline : rest.length < bytes.length := length_of_cutLine? h
    match naturalIn? 16 (trimBlank ((ascii line).takeWhile (· != ';'))) with
    | none => none
    | some 0 => some []
    | some size =>
      match hend : cutLine? (rest.drop size) with
      | some ([], after) =>
        have hrest : after.length < (rest.drop size).length := length_of_cutLine? hend
        have : after.length < bytes.length := by simp at hrest; omega
        if rest.length < size then none
        else (joinChunks? after).map fun more => rest.take size ++ more
      | _ => none
termination_by bytes.length

def hasNoBody (status : UInt16) : Bool := status == 204 || status == 304

/-- The body after the headers, if it ends as announced. -/
def bodyOf? (status : UInt16) (headers : List (String × List Char)) (bytes : Bytes) :
    Option Bytes :=
  if hasNoBody status then some []
  else if headers.any fun h => h.1 == "transfer-encoding" then joinChunks? bytes
  else
    match headers.lookup "content-length" with
    | none => some bytes
    | some length =>
      match naturalIn? 10 length with
      | none => none
      | some n => if n ≤ bytes.length then some (bytes.take n) else none

/-- Read a reply; informational ones before it are skipped. -/
def Reply.ofBytes? (bytes : Bytes) : Option Reply :=
  go bytes.length bytes
where
  /-- Read a reply after at most `fuel` informational ones. -/
  go : Nat → Bytes → Option Reply
    | 0, _ => none
    | fuel + 1, bytes =>
      match cutLine? bytes with
      | none => none
      | some (line, rest) =>
        match statusOf? line, scanHeaders? rest with
        | some status, some (headers, after) =>
          if status < 200 then go fuel after
          else some ⟨status, (bodyOf? status headers after).getD []⟩
        | _, _ => none

end RecordFlow.Http
