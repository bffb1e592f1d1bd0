import RecordFlow.Text.Hexadecimal

/-!
# IPv6 addresses

Eight pieces of four hexadecimal digits; `::` stands for a run of zero pieces, and the
last two pieces may be written as an IPv4 address.
-/

namespace RecordFlow.Url

/-- Up to four hexadecimal digits at the front: their value, their number, and the
rest. -/
def scanPiece : Nat → List Char → Nat × Nat × List Char
  | 0, text => (0, 0, text)
  | _ + 1, [] => (0, 0, [])
  | n + 1, c :: rest =>
    match Text.hexDigit? c with
    | some d =>
      let (value, count, after) := scanPiece n rest
      (d * 16 ^ count + value, count + 1, after)
    | none => (0, 0, c :: rest)

/-- A decimal byte at the front: up to three digits, without a leading zero. -/
def scanByte? (text : List Char) : Option (Nat × List Char) :=
  let digits := text.takeWhile Char.isDigit
  let value := digits.foldl (fun n c => n * 10 + (c.toNat - '0'.toNat)) 0
  if digits.isEmpty || 255 < value || (1 < digits.length && digits.head? == some '0') then none
  else some (value, text.drop digits.length)

/-- An IPv4 address of exactly four decimal bytes, as two pieces. -/
def scanEmbedded? (text : List Char) : Option (List Nat) :=
  match scanByte? text with
  | some (a, '.' :: rest) =>
    match scanByte? rest with
    | some (b, '.' :: rest) =>
      match scanByte? rest with
      | some (c, '.' :: rest) =>
        match scanByte? rest with
        | some (d, []) => some [a * 256 + b, c * 256 + d]
        | _ => none
      | _ => none
    | _ => none
  | _ => none

/-- Read pieces, given those read before and the place of `::` among them.  `fuel` bounds
the pieces. -/
def scanPieces? (fuel : Nat) (pieces : List Nat) (gap : Option Nat) :
    List Char → Option (List Nat × Option Nat)
  | [] => some (pieces, gap)
  | text@(c :: rest) =>
    match fuel with
    | 0 => none
    | fuel + 1 =>
      if c == ':' then
        if gap.isSome then none
        else scanPieces? fuel pieces (some pieces.length) rest
      else
        match scanPiece 4 text with
        | (value, count, after) =>
          match after with
          | '.' :: _ =>
            if count == 0 || 6 < pieces.length then none
            else (scanEmbedded? text).map fun last => (pieces ++ last, gap)
          | ':' :: [] => none
          | ':' :: more => scanPieces? fuel (pieces ++ [value]) gap more
          | [] => some (pieces ++ [value], gap)
          | _ => none

/-- Fill the gap with zero pieces, so that there are eight. -/
def fillGap? (pieces : List Nat) : Option Nat → Option (List Nat)
  | none => if pieces.length = 8 then some pieces else none
  | some place =>
    if 8 ≤ pieces.length then none
    else
      some (pieces.take place ++ List.replicate (8 - pieces.length) 0 ++ pieces.drop place)

def parseIpv6? (text : List Char) : Option (List Nat) :=
  let start :=
    match text with
    | ':' :: ':' :: rest => some (rest, some 0)
    | ':' :: _ => none
    | text => some (text, none)
  match start with
  | none => none
  | some (rest, gap) =>
    match scanPieces? 10 [] gap rest with
    | none => none
    | some (pieces, gap) => fillGap? pieces gap

def zeroRun (pieces : List Nat) : Nat := (pieces.takeWhile (· == 0)).length

/-- The start and length of the first longest run of at least two zero pieces. -/
def longestZeroRun (pieces : List Nat) : Option (Nat × Nat) :=
  (List.range 8).foldl (fun best start =>
    let length := zeroRun (pieces.drop start)
    match best with
    | none => if 2 ≤ length then some (start, length) else none
    | some (_, longest) => if longest < length then some (start, length) else best) none

def joinPieces (pieces : List Nat) : String :=
  ":".intercalate (pieces.map fun piece => String.ofList (Nat.toDigits 16 piece))

/-- An address in its shortest form. -/
def renderIpv6 (pieces : List Nat) : String :=
  match longestZeroRun pieces with
  | none => joinPieces pieces
  | some (start, length) =>
    joinPieces (pieces.take start) ++ "::" ++ joinPieces (pieces.drop (start + length))

end RecordFlow.Url
