import RecordFlow.Text.Hexadecimal

/-!
# IPv4 addresses

An address is written as one to four numbers, each decimal, octal or hexadecimal; the
last one fills the bytes that are left.
-/

namespace RecordFlow.Url

def digitsIn? (base : Nat) (text : List Char) : Option Nat :=
  text.foldlM (fun n c =>
    match Text.hexDigit? c with
    | some d => if d < base then some (n * base + d) else none
    | none => none) 0

/-- A number of an address: `0x` marks hexadecimal, a leading zero octal.  A mark alone is
zero. -/
def ipv4Number? : List Char → Option Nat
  | [] => none
  | '0' :: 'x' :: digits | '0' :: 'X' :: digits => digitsIn? 16 digits
  | '0' :: digit :: digits => digitsIn? 8 (digit :: digits)
  | digits => digitsIn? 10 digits

def splitDots (text : List Char) : List (List Char) :=
  text.foldr (fun c parts =>
    if c == '.' then [] :: parts
    else
      match parts with
      | [] => [[c]]
      | part :: rest => (c :: part) :: rest) [[]]

/-- The parts of a host between dots, without an empty last one. -/
def hostParts (text : List Char) : List (List Char) :=
  let parts := splitDots text
  if 1 < parts.length && parts.getLast? == some [] then parts.dropLast else parts

/-- A host whose last part is a number must be an address. -/
def endsInNumber (text : List Char) : Bool :=
  match (hostParts text).getLast? with
  | none => false
  | some last =>
    (!last.isEmpty && last.all Char.isDigit) || (ipv4Number? last).isSome

def ipv4OfNumbers? (numbers : List Nat) : Option UInt32 :=
  match numbers.getLast? with
  | none => none
  | some last =>
    let before := numbers.dropLast
    let weight := Nat.pow 256 (4 - before.length)
    if 4 < numbers.length || before.any (255 < ·) || weight ≤ last then none
    else some (UInt32.ofNat (before.foldl (fun n b => n * 256 + b) 0 * weight + last))

def parseIpv4? (text : List Char) : Option UInt32 :=
  ((hostParts text).mapM ipv4Number?).bind ipv4OfNumbers?

def renderIpv4 (address : UInt32) : String :=
  let n := address.toNat
  s!"{n / 16777216}.{n / 65536 % 256}.{n / 256 % 256}.{n % 256}"

end RecordFlow.Url
