import RecordFlow.Decimal.Integer
import RecordFlow.Text.Hexadecimal

/-!
# Numbers

Integers have 64 bits and may be written in four bases, floats have a fraction or an
exponent.  Digits may be grouped by single underscores, and decimal integers have no
leading zeros.
-/

namespace RecordFlow.Toml

def digitIn? (base : Nat) (c : Char) : Option Nat := (Text.hexDigit? c).filter (· < base)

/-- Digits of a base at the front, without the underscores between them, and the text
after them. -/
def scanGroups (base : Nat) : List Char → List Nat × List Char
  | [] => ([], [])
  | '_' :: c :: rest =>
    match digitIn? base c with
    | some d =>
      let (digits, after) := scanGroups base rest
      (d :: digits, after)
    | none => ([], '_' :: c :: rest)
  | c :: rest =>
    match digitIn? base c with
    | some d =>
      let (digits, after) := scanGroups base rest
      (d :: digits, after)
    | none => ([], c :: rest)

/-- One or more digits of a base at the front. -/
def scanNatural? (base : Nat) (text : List Char) : Option (List Nat × List Char) :=
  if text.head? == some '_' then none
  else
    match scanGroups base text with
    | ([], _) => none
    | (digits, after) => some (digits, after)

/-- One or more decimal digits without a leading zero at the front. -/
def scanWhole? : List Char → Option (List Nat × List Char)
  | '0' :: rest => some ([0], rest)
  | text => scanNatural? 10 text

def digitsIn (base : Nat) (digits : List Nat) : Nat :=
  digits.foldl (fun n d => n * base + d) 0

/-- A sign at the front; true for minus. -/
def scanSign : List Char → Bool × List Char
  | '-' :: rest => (true, rest)
  | '+' :: rest => (false, rest)
  | text => (false, text)

def scanInteger? (text : List Char) : Option (Int64 × List Char) :=
  let inBase (base : Nat) (rest : List Char) : Option (Int64 × List Char) := do
    let (digits, after) ← scanNatural? base rest
    pure (← Decimal.toInt64? (digitsIn base digits : Int), after)
  match text with
  | '0' :: 'x' :: rest => inBase 16 rest
  | '0' :: 'o' :: rest => inBase 8 rest
  | '0' :: 'b' :: rest => inBase 2 rest
  | text => do
    let (isNegative, rest) := scanSign text
    let (digits, after) ← scanWhole? rest
    let n : Int := digitsIn 10 digits
    pure (← Decimal.toInt64? (if isNegative then -n else n), after)

/-- The double nearest to `digits · 10^exponent`. -/
def nearestDouble (digits : List Nat) (exponent : Int) : Float :=
  let n := digitsIn 10 digits
  let leading := (toString n).length + exponent
  if n = 0 || leading < -400 then 0
  else if 400 < leading then 1.0 / 0.0
  else Float.ofScientific n (exponent < 0) exponent.natAbs

def scanExponent? : List Char → Option (Int × List Char)
  | 'e' :: rest | 'E' :: rest => do
    let (isNegative, rest) := scanSign rest
    let (digits, after) ← scanNatural? 10 rest
    let n : Int := digitsIn 10 digits
    pure (if isNegative then -n else n, after)
  | _ => none

/-- What makes a number a float, after its integer digits: the fraction digits, the
exponent, and the text after them. -/
def scanFloatTail? (text : List Char) : Option (List Nat × Int × List Char) :=
  match text with
  | '.' :: rest => do
    let (fraction, after) ← scanNatural? 10 rest
    match scanExponent? after with
    | some (exponent, after) => pure (fraction, exponent, after)
    | none => pure (fraction, 0, after)
  | text => (scanExponent? text).map fun (exponent, after) => ([], exponent, after)

/-- Infinity or no number at the front, after the sign. -/
def scanSpecial? : List Char → Option (Float × List Char)
  | 'i' :: 'n' :: 'f' :: rest => some (1.0 / 0.0, rest)
  | 'n' :: 'a' :: 'n' :: rest => some (0.0 / 0.0, rest)
  | _ => none

/-- A float at the front.  A literal may be too far below zero, but not too large. -/
def scanFloat? (text : List Char) : Option (Float × List Char) :=
  let (isNegative, rest) := scanSign text
  let signed (x : Float) : Float := if isNegative then -x else x
  match scanSpecial? rest with
  | some (x, after) => some (signed x, after)
  | none => do
    let (whole, after) ← scanWhole? rest
    let (fraction, exponent, after) ← scanFloatTail? after
    let x := signed (nearestDouble (whole ++ fraction) (exponent - fraction.length))
    if x.isInf && !isNegative then none else pure (x, after)

end RecordFlow.Toml
