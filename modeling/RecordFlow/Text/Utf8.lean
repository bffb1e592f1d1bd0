/-!
# UTF-8

Bytes to text and back.  A byte sequence is cut into segments: a scalar value, a
malformed piece of one to three bytes, or a final piece that stops inside a
sequence which more bytes could have completed.  Strict and lossy decoding are two
readings of the same segments, so both see the same boundaries.
-/

namespace RecordFlow

/-- Uninterpreted content. -/
abbrev Bytes := List UInt8

end RecordFlow

namespace RecordFlow.Utf8

/-- One piece of a byte sequence. -/
inductive Segment where
  | scalar (c : Char)
  /-- The longest beginning, in bytes, of a sequence that nothing can complete. -/
  | malformed (length : Nat)
  /-- The input ends inside a sequence. -/
  | unfinished
  deriving DecidableEq, Repr

/-- Continuation bytes are `10xxxxxx`. -/
def isContinuation (b : UInt8) : Bool := 0x80 ≤ b && b ≤ 0xBF

/-- Second bytes that may follow the lead byte of a three-byte sequence: overlong
forms and surrogates are shut out here. -/
def isSecondOfThree (lead b : UInt8) : Bool :=
  if lead == 0xE0 then 0xA0 ≤ b && b ≤ 0xBF
  else if lead == 0xED then 0x80 ≤ b && b ≤ 0x9F
  else isContinuation b

/-- Second bytes that may follow the lead byte of a four-byte sequence: overlong
forms and values past U+10FFFF are shut out here. -/
def isSecondOfFour (lead b : UInt8) : Bool :=
  if lead == 0xF0 then 0x90 ≤ b && b ≤ 0xBF
  else if lead == 0xF4 then 0x80 ≤ b && b ≤ 0x8F
  else isContinuation b

def payload (b : UInt8) : Nat := b.toNat % 64

/-- Cut a byte sequence into scalar values and malformed pieces. -/
def segments : Bytes → List Segment
  | [] => []
  | b0 :: r0 =>
    if b0 < 0x80 then .scalar (Char.ofNat b0.toNat) :: segments r0
    else if 0xC2 ≤ b0 && b0 ≤ 0xDF then
      match r0 with
      | [] => [.unfinished]
      | b1 :: r1 =>
        if isContinuation b1 then
          .scalar (Char.ofNat (b0.toNat % 32 * 64 + payload b1)) :: segments r1
        else .malformed 1 :: segments (b1 :: r1)
    else if 0xE0 ≤ b0 && b0 ≤ 0xEF then
      match r0 with
      | [] => [.unfinished]
      | b1 :: r1 =>
        if isSecondOfThree b0 b1 then
          match r1 with
          | [] => [.unfinished]
          | b2 :: r2 =>
            if isContinuation b2 then
              .scalar (Char.ofNat (b0.toNat % 16 * 4096 + payload b1 * 64 + payload b2))
                :: segments r2
            else .malformed 2 :: segments (b2 :: r2)
        else .malformed 1 :: segments (b1 :: r1)
    else if 0xF0 ≤ b0 && b0 ≤ 0xF4 then
      match r0 with
      | [] => [.unfinished]
      | b1 :: r1 =>
        if isSecondOfFour b0 b1 then
          match r1 with
          | [] => [.unfinished]
          | b2 :: r2 =>
            if isContinuation b2 then
              match r2 with
              | [] => [.unfinished]
              | b3 :: r3 =>
                if isContinuation b3 then
                  .scalar (Char.ofNat (b0.toNat % 8 * 262144 + payload b1 * 4096
                    + payload b2 * 64 + payload b3)) :: segments r3
                else .malformed 3 :: segments (b3 :: r3)
            else .malformed 2 :: segments (b2 :: r2)
        else .malformed 1 :: segments (b1 :: r1)
    else .malformed 1 :: segments r0

/-- Where and how a byte sequence stops being UTF-8. -/
structure Fault where
  /-- Number of bytes before the fault. -/
  index : Nat
  /-- Length of the malformed piece; absent when the input just ends too early. -/
  length : Option Nat
  deriving DecidableEq, Repr

def Fault.message (fault : Fault) : String :=
  match fault.length with
  | some n => s!"invalid utf-8 sequence of {n} bytes from index {fault.index}"
  | none => s!"incomplete utf-8 byte sequence from index {fault.index}"

/-- Read segments as text, counting bytes from `index`; the first piece that is no
scalar value is the fault. -/
def textOf (index : Nat) : List Segment → Except Fault (List Char)
  | [] => .ok []
  | .scalar c :: rest =>
    match textOf (index + c.utf8Size) rest with
    | .ok text => .ok (c :: text)
    | .error fault => .error fault
  | .malformed n :: _ => .error { index := index, length := some n }
  | .unfinished :: _ => .error { index := index, length := none }

def decode (bytes : Bytes) : Except Fault String :=
  (textOf 0 (segments bytes)).map String.ofList

/-- Strict decoding, without the cause of a failure. -/
def decode? (bytes : Bytes) : Option String :=
  (decode bytes).toOption

/-- What a segment shows in lossy decoding: U+FFFD stands for any piece that is no
scalar value. -/
def Segment.shown : Segment → Char
  | .scalar c => c
  | .malformed _ => '\uFFFD'
  | .unfinished => '\uFFFD'

/-- Decoding that never fails. -/
def decodeLossy (bytes : Bytes) : String :=
  String.ofList ((segments bytes).map Segment.shown)

def encodeChars (text : List Char) : Bytes :=
  text.flatMap String.utf8EncodeChar

def encode (text : String) : Bytes :=
  encodeChars text.toList

@[simp] theorem encodeChars_nil : encodeChars [] = [] := rfl

@[simp] theorem encodeChars_cons (c : Char) (text : List Char) :
    encodeChars (c :: text) = String.utf8EncodeChar c ++ encodeChars text := by
  simp [encodeChars]

@[simp] theorem encodeChars_append (a b : List Char) :
    encodeChars (a ++ b) = encodeChars a ++ encodeChars b := by
  simp [encodeChars]

end RecordFlow.Utf8
