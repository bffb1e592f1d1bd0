/-!
# Decimal integers

Integers written in decimal: an optional sign and at least one ASCII digit, nothing
around them.
-/

namespace RecordFlow.Decimal

def digit? (c : Char) : Option Nat :=
  if '0' ≤ c && c ≤ '9' then some (c.toNat - '0'.toNat) else none

/-- Read the remaining digits of a number whose digits so far have value `acc`. -/
def readDigits (acc : Nat) : List Char → Option Nat
  | [] => some acc
  | c :: rest =>
    match digit? c with
    | some d => readDigits (acc * 10 + d) rest
    | none => none

def readNat? : List Char → Option Nat
  | [] => none
  | text => readDigits 0 text

def readInt? : List Char → Option Int
  | '-' :: rest => (readNat? rest).map fun n => -(n : Int)
  | '+' :: rest => (readNat? rest).map fun n => (n : Int)
  | text => (readNat? text).map fun n => (n : Int)

/-- The 64-bit signed integer with this value, if there is one. -/
def toInt64? (i : Int) : Option Int64 :=
  if Int64.minValue.toInt ≤ i && i ≤ Int64.maxValue.toInt then some (Int64.ofInt i) else none

/-- A 64-bit signed integer written in decimal. -/
def parseInt64? (text : String) : Option Int64 :=
  (readInt? text.toList).bind toInt64?

def render (i : Int) : String := toString i

end RecordFlow.Decimal
