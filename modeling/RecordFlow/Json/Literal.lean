import RecordFlow.Json.Basic

/-!
# Number literals

A number literal is kept as its digits and given a value in a second step.  An integer
that fits 64 bits is exact.  Every other literal is a double: the digits that fit an
unsigned 64-bit integer form the significand, further integer digits only raise the
exponent, further fraction digits are dropped, and the significand is scaled by a
power of ten with one rounding per factor.
-/

namespace RecordFlow.Json

/-- A number as written: sign, integer digits, fraction digits, and the sign and digits
of the exponent. -/
structure Literal where
  negative : Bool
  whole : List Nat
  fraction : Option (List Nat)
  exponent : Option (Bool × List Nat)
  deriving DecidableEq, Repr

/-- Append digits to a significand as long as the result fits 64 bits; the digits that
are left start at the first one that does not fit. -/
def appendDigits (significand : Nat) : List Nat → Nat × List Nat
  | [] => (significand, [])
  | d :: rest =>
    if significand * 10 + d < UInt64.size then appendDigits (significand * 10 + d) rest
    else (significand, d :: rest)

def digitsValue (digits : List Nat) : Nat :=
  digits.foldl (fun n d => n * 10 + d) 0

def powerOfTen (e : Nat) : Float := Float.ofScientific 1 false e

/-- Divide by ten `e` times, in steps of at most 308 places. -/
def scaleDown (x : Float) (e : Nat) : Float :=
  if e ≤ 308 then x / powerOfTen e
  else if x == 0 then x
  else scaleDown (x / powerOfTen 308) (e - 308)
termination_by e

/-- Multiply by ten `e` times; absent when the result is out of range. -/
def scaleUp? (x : Float) (e : Nat) : Option Float :=
  if e ≤ 308 then
    let y := x * powerOfTen e
    if y.isInf then none else some y
  else if x == 0 then some x
  else none

def scale? (significand : Nat) (e : Int) : Option Float :=
  let x := (UInt64.ofNat significand).toFloat
  if 0 ≤ e then scaleUp? x e.toNat else some (scaleDown x (-e).toNat)

/-- The largest exponent that is looked at; a larger one means zero or out of range. -/
def exponentLimit : Nat := 0x7FFFFFFF

/-- The double of a literal with these digits; absent when it is out of range. -/
def double? (significand : Nat) (shift : Int) : Option (Bool × List Nat) → Option Float
  | none => scale? significand shift
  | some (below, digits) =>
    let e := digitsValue digits
    if e ≤ exponentLimit then scale? significand (if below then shift - e else shift + e)
    else if below || significand == 0 then some 0
    else none

def signed (negative : Bool) (x : Float) : Number :=
  .double (if negative then -x else x)

/-- The integer `significand` with a sign, as exactly as a number can hold it.  Minus
zero is a double. -/
def integer (negative : Bool) (significand : Nat) : Number :=
  if !negative then .natural (UInt64.ofNat significand)
  else if significand == 0 || 0x8000000000000000 < significand then
    signed true (UInt64.ofNat significand).toFloat
  else .negative (Int64.ofInt (-(significand : Int)))

/-- The value of a literal; absent when it is out of range. -/
def Literal.value? (literal : Literal) : Option Number :=
  let (significand, excess) := appendDigits 0 literal.whole
  match excess, literal.fraction, literal.exponent with
  | [], none, none => some (integer literal.negative significand)
  | _, _, _ =>
    let places := literal.fraction.getD []
    let (full, dropped) := appendDigits significand places
    let shift : Int := (excess.length : Int) - ((places.length : Int) - dropped.length)
    (double? full shift literal.exponent).map (signed literal.negative)

end RecordFlow.Json
