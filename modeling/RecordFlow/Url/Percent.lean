import RecordFlow.Text.Hexadecimal
import RecordFlow.Text.Utf8

/-!
# Percent-encoding

A byte may be written as a percent sign and two hexadecimal digits.  Each part of a URL
has its own set of ASCII characters that must be written so; controls and everything
outside ASCII always are.
-/

namespace RecordFlow.Url

def upperHexDigit (n : Nat) : Char := (Nat.digitChar n).toUpper

/-- A byte as a percent sign and two digits. -/
def percentByte (b : UInt8) : List Char :=
  ['%', upperHexDigit (b.toNat / 16), upperHexDigit (b.toNat % 16)]

def percentChar (c : Char) : List Char :=
  (String.utf8EncodeChar c).flatMap percentByte

/-- Controls and everything outside ASCII. -/
def inControlSet (c : Char) : Bool := c.toNat < 0x20 || 0x7E < c.toNat

def inFragmentSet (c : Char) : Bool :=
  inControlSet c || [' ', '"', '<', '>', '`'].contains c

def inPathSet (c : Char) : Bool :=
  inFragmentSet c || ['#', '?', '\x7b', '\x7d'].contains c

def inUserinfoSet (c : Char) : Bool :=
  inPathSet c || ['/', ':', ';', '=', '@', '[', '\\', ']', '^', '|'].contains c

def inQuerySet (c : Char) : Bool :=
  inControlSet c || [' ', '"', '#', '<', '>'].contains c

/-- What is encoded in queries of special schemes. -/
def inSpecialQuerySet (c : Char) : Bool := inQuerySet c || c == '\''

/-- Encode the characters of a set, and keep the others. -/
def percentEncode (inSet : Char → Bool) (text : List Char) : List Char :=
  text.flatMap fun c => if inSet c then percentChar c else [c]

def hexByte? (b : UInt8) : Option Nat := Text.hexDigit? (Char.ofNat b.toNat)

def hexPair? (h1 h2 : UInt8) : Option UInt8 :=
  match hexByte? h1, hexByte? h2 with
  | some d1, some d2 => some (UInt8.ofNat (d1 * 16 + d2))
  | _, _ => none

/-- Decode percent signs that two hexadecimal digits follow, and keep all other
bytes. -/
def percentDecode : Bytes → Bytes
  | b :: h1 :: h2 :: rest =>
    match if b == 0x25 then hexPair? h1 h2 else none with
    | some decoded => decoded :: percentDecode rest
    | none => b :: percentDecode (h1 :: h2 :: rest)
  | bytes => bytes

end RecordFlow.Url
