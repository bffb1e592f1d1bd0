import RecordFlow.Text.Utf8

/-!
# UTF-16

Code units of two bytes in either order.  A surrogate needs its partner.
-/

namespace RecordFlow.Utf16

/-- The order of the two bytes of a code unit. -/
inductive ByteOrder where
  | littleEndian
  | bigEndian
  deriving DecidableEq, Repr

def ByteOrder.unit (order : ByteOrder) (first second : UInt8) : Nat :=
  match order with
  | littleEndian => second.toNat * 256 + first.toNat
  | bigEndian => first.toNat * 256 + second.toNat

/-- Whether a code unit is the first half of a pair. -/
def isHigh (unit : Nat) : Bool := 0xD800 ≤ unit && unit ≤ 0xDBFF

/-- Whether a code unit is the second half of a pair. -/
def isLow (unit : Nat) : Bool := 0xDC00 ≤ unit && unit ≤ 0xDFFF

def pair (high low : Nat) : Char :=
  Char.ofNat (0x10000 + (high - 0xD800) * 0x400 + (low - 0xDC00))

/-- Cut bytes into code units; absent when a byte is left over. -/
def units? (order : ByteOrder) : Bytes → Option (List Nat)
  | [] => some []
  | [_] => none
  | a :: b :: rest => (units? order rest).map (order.unit a b :: ·)

def chars? : List Nat → Option (List Char)
  | [] => some []
  | unit :: rest =>
    if isHigh unit then
      match rest with
      | [] => none
      | low :: rest =>
        if isLow low then (chars? rest).map (pair unit low :: ·) else none
    else if isLow unit then none
    else (chars? rest).map (Char.ofNat unit :: ·)

def decode? (order : ByteOrder) (bytes : Bytes) : Option (List Char) :=
  (units? order bytes).bind chars?

end RecordFlow.Utf16
