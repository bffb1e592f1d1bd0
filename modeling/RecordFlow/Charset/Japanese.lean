import RecordFlow.Charset.Index
import RecordFlow.Charset.Jis0208
import RecordFlow.Charset.Jis0212
import RecordFlow.Text.Utf8

/-!
# Japanese charsets

Shift_JIS, EUC-JP and ISO-2022-JP: three ways to write the rows and cells of JIS X 0208
in bytes.
-/

namespace RecordFlow.Japanese

/-- The halfwidth katakana of a byte from 0xA1 to 0xDF. -/
def halfwidth (b : UInt8) : Char := Char.ofNat (0xFF61 + (b.toNat - 0xA1))

/-- A Shift_JIS character of two bytes.  Some rows are for private use. -/
def shiftJisPair? (lead trail : UInt8) : Option Char :=
  if (0x40 ≤ trail && trail ≤ 0x7E) || (0x80 ≤ trail && trail ≤ 0xFC) then
    let skipped := if trail < 0x7F then 0x40 else 0x41
    let start := if lead < 0xA0 then 0x81 else 0xC1
    let pointer := (lead.toNat - start) * 188 + (trail.toNat - skipped)
    if 8836 ≤ pointer && pointer ≤ 10715 then some (Char.ofNat (0xE000 + (pointer - 8836)))
    else CharsetIndex.char? CharsetIndex.jis0208 pointer
  else none

def decodeShiftJis : Bytes → Option (List Char)
  | [] => some []
  | b :: rest =>
    if b ≤ 0x80 then (decodeShiftJis rest).map (Char.ofNat b.toNat :: ·)
    else if 0xA1 ≤ b && b ≤ 0xDF then (decodeShiftJis rest).map (halfwidth b :: ·)
    else if (0x81 ≤ b && b ≤ 0x9F) || (0xE0 ≤ b && b ≤ 0xFC) then
      match rest with
      | [] => none
      | trail :: rest =>
        match shiftJisPair? b trail with
        | some c => (decodeShiftJis rest).map (c :: ·)
        | none => none
    else none

/-- Bytes that EUC-JP uses for rows and cells. -/
def isEucByte (b : UInt8) : Bool := 0xA1 ≤ b && b ≤ 0xFE

def eucPair? (index : Array Char) (row cell : UInt8) : Option Char :=
  if isEucByte row && isEucByte cell then
    CharsetIndex.char? index ((row.toNat - 0xA1) * 94 + (cell.toNat - 0xA1))
  else none

def decodeEucJp : Bytes → Option (List Char)
  | [] => some []
  | b :: rest =>
    if b < 0x80 then (decodeEucJp rest).map (Char.ofNat b.toNat :: ·)
    else if b == 0x8E then
      match rest with
      | [] => none
      | kana :: rest =>
        if 0xA1 ≤ kana && kana ≤ 0xDF then (decodeEucJp rest).map (halfwidth kana :: ·)
        else none
    else if b == 0x8F then
      match rest with
      | row :: cell :: rest =>
        match eucPair? CharsetIndex.jis0212 row cell with
        | some c => (decodeEucJp rest).map (c :: ·)
        | none => none
      | _ => none
    else
      match rest with
      | [] => none
      | cell :: rest =>
        match eucPair? CharsetIndex.jis0208 b cell with
        | some c => (decodeEucJp rest).map (c :: ·)
        | none => none

/-- The character sets that ISO-2022-JP switches between. -/
inductive Shift where
  | ascii
  | roman
  | katakana
  | doubleByte
  deriving DecidableEq

/-- The set that an escape sequence switches to, by the two bytes after the escape. -/
def shiftOf? (b1 b2 : UInt8) : Option Shift :=
  if b1 == 0x28 && b2 == 0x42 then some .ascii
  else if b1 == 0x28 && b2 == 0x4A then some .roman
  else if b1 == 0x28 && b2 == 0x49 then some .katakana
  else if b1 == 0x24 && (b2 == 0x40 || b2 == 0x42) then some .doubleByte
  else none

/-- A single byte in a set of single bytes. -/
def Shift.char? (shift : Shift) (b : UInt8) : Option Char :=
  match shift with
  | .katakana =>
    if 0x21 ≤ b && b ≤ 0x5F then some (Char.ofNat (0xFF61 + (b.toNat - 0x21))) else none
  | .doubleByte => none
  | _ =>
    if 0x80 ≤ b || b == 0x0E || b == 0x0F then none
    else if shift == .roman && b == 0x5C then some '\u00A5'
    else if shift == .roman && b == 0x7E then some '\u203E'
    else some (Char.ofNat b.toNat)

/-- Strict decoding of ISO-2022-JP from a set.  An escape sequence right after another
one is an error, which `fresh` remembers. -/
def decodeIso2022 (shift : Shift) (fresh : Bool) : Bytes → Option (List Char)
  | [] => some []
  | b :: rest =>
    if b == 0x1B then
      match rest with
      | b1 :: b2 :: rest =>
        match shiftOf? b1 b2 with
        | some shift => if fresh then none else decodeIso2022 shift true rest
        | none => none
      | _ => none
    else if shift == .doubleByte then
      match rest with
      | [] => none
      | cell :: rest =>
        if 0x21 ≤ b && b ≤ 0x7E && 0x21 ≤ cell && cell ≤ 0x7E then
          match CharsetIndex.char? CharsetIndex.jis0208
              ((b.toNat - 0x21) * 94 + (cell.toNat - 0x21)) with
          | some c => (decodeIso2022 shift false rest).map (c :: ·)
          | none => none
        else none
    else
      match shift.char? b with
      | some c => (decodeIso2022 shift false rest).map (c :: ·)
      | none => none

end RecordFlow.Japanese
