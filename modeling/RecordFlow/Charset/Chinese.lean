import RecordFlow.Charset.Big5
import RecordFlow.Charset.Gb18030
import RecordFlow.Charset.Index
import RecordFlow.Text.Hexadecimal
import RecordFlow.Text.Utf8

/-!
# Chinese charsets

GB 18030 and Big5.  Characters of GB 18030 that have no double byte take four bytes,
which count through the code points that are left, in ascending runs.
-/

namespace RecordFlow.Chinese

/-- Where runs of four-byte characters start: pointer and code point. -/
def runs : Array (Nat × Nat) := Text.hexPairs <| String.join [
  "0-80 24-a5 26-a9 2d-b2 32-b8 51-d8 59-e2 5f-eb 60-ee 64-f4 67-f8 68-fb 69-fd ",
  "6d-102 7e-114 85-11c 94-12c ac-145 af-149 b3-14e d0-16c 132-1cf 133-1d1 134-1d3 ",
  "135-1d5 136-1d7 137-1d9 138-1db 139-1dd 155-1fa 1ac-252 1bb-262 220-2c8 221-2cc ",
  "22e-2da 2e5-3a2 2e6-3aa 2ed-3c2 2ee-3ca 325-402 333-450 334-452 1ef2-2011 ",
  "1ef4-2017 1ef5-201a 1ef7-201e 1efe-2027 1f07-2031 1f08-2034 1f09-2036 1f0e-203c ",
  "1f7e-20ad 1fd4-2104 1fd5-2106 1fd8-210a 1fe4-2117 1fee-2122 202c-216c 2030-217a ",
  "2046-2194 2048-219a 20b6-2209 20bc-2210 20bd-2212 20c0-2216 20c4-221b 20c6-2221 ",
  "20c8-2224 20c9-2226 20ca-222c 20cc-222f 20d1-2238 20d6-223e 20e0-2249 20e3-224d ",
  "20e8-2253 20f5-2262 20f7-2268 20fd-2270 2122-2296 2125-229a 2130-22a6 2149-22c0 ",
  "219b-2313 22e8-246a 22f2-249c 2356-254c 235a-2574 2367-2590 236a-2596 2374-25a2 ",
  "2384-25b4 238c-25be 2394-25c8 2397-25cc 2399-25d0 23ab-25e6 23ca-2607 23cc-260a ",
  "2402-2641 2403-2643 2c41-2e82 2c43-2e85 2c46-2e89 2c48-2e8d 2c52-2e98 2c61-2ea8 ",
  "2c63-2eab 2c66-2eaf 2c6a-2eb4 2c6c-2eb8 2c6f-2ebc 2c7d-2ecb 2da2-2ffc 2da6-3004 ",
  "2da7-3018 2dac-301f 2dae-302a 2dc2-303f 2dc4-3094 2dcb-309f 2dcd-30f7 2dd2-30ff ",
  "2dd8-312a 2ece-322a 2ed5-3232 2f46-32a4 3030-3390 303c-339f 303e-33a2 3060-33c5 ",
  "3069-33cf 306b-33d3 306d-33d6 30de-3448 3109-3474 3233-359f 32a2-360f 32ad-361b ",
  "35aa-3919 35ff-396f 365f-39d1 366d-39e0 3700-3a74 37da-3b4f 38f9-3c6f 396a-3ce1 ",
  "3cdf-4057 3de7-4160 3fbe-4338 4032-43ad 4036-43b2 4061-43de 4159-44d7 42ce-464d ",
  "42e2-4662 43a3-4724 43a8-472a 43fa-477d 440a-478e 45c3-4948 45f5-497b 45f7-497e ",
  "45fb-4984 45fc-4987 4610-499c 4613-49a0 4629-49b8 48e8-4c78 490f-4ca4 497e-4d1a ",
  "4a12-4daf 4a63-9fa6 82bd-e76c 82be-e7c8 82bf-e7e7 82cc-e815 82cd-e819 82d2-e81f ",
  "82d9-e827 82dd-e82d 82e1-e833 82e9-e83c 82f0-e844 8300-e856 830e-e865 93d5-f92d ",
  "9421-f97a 943c-f996 948d-f9e8 9496-f9f2 94b0-fa10 94b1-fa12 94b2-fa15 94b5-fa19 ",
  "94bb-fa22 94bc-fa25 94be-fa2a 98c4-fe32 98c5-fe45 98c9-fe53 98ca-fe58 98cb-fe67 ",
  "98cc-fe6c 9961-ff5f 99e2-ffe6"]

/-- The character of a four-byte pointer.  One pointer lies outside the runs. -/
def ofRuns? (pointer : Nat) : Option Char :=
  if pointer == 7457 then some '\uE7C7'
  else if 189000 ≤ pointer && pointer ≤ 1237575 then
    some (Char.ofNat (0x10000 + (pointer - 189000)))
  else if pointer ≤ 39419 then
    (runs.findRev? fun run => run.1 ≤ pointer).map fun run =>
      Char.ofNat (run.2 + (pointer - run.1))
  else none

def gbPair? (lead trail : UInt8) : Option Char :=
  if (0x40 ≤ trail && trail ≤ 0x7E) || (0x80 ≤ trail && trail ≤ 0xFE) then
    let skipped := if trail < 0x7F then 0x40 else 0x41
    CharsetIndex.char? CharsetIndex.gb18030 ((lead.toNat - 0x81) * 190 + (trail.toNat - skipped))
  else none

def gbQuadPointer (b1 b2 b3 b4 : UInt8) : Nat :=
  (((b1.toNat - 0x81) * 10 + (b2.toNat - 0x30)) * 126 + (b3.toNat - 0x81)) * 10
    + (b4.toNat - 0x30)

/-- Strict decoding of GB 18030, and of GBK, which is decoded alike. -/
def decodeGb : Bytes → Option (List Char)
  | [] => some []
  | b1 :: rest =>
    if b1 < 0x80 then (decodeGb rest).map (Char.ofNat b1.toNat :: ·)
    else if b1 == 0x80 then (decodeGb rest).map ('\u20AC' :: ·)
    else if b1 == 0xFF then none
    else
      match rest with
      | [] => none
      | b2 :: rest =>
        if 0x30 ≤ b2 && b2 ≤ 0x39 then
          match rest with
          | b3 :: b4 :: rest =>
            if 0x81 ≤ b3 && b3 ≤ 0xFE && 0x30 ≤ b4 && b4 ≤ 0x39 then
              match ofRuns? (gbQuadPointer b1 b2 b3 b4) with
              | some c => (decodeGb rest).map (c :: ·)
              | none => none
            else none
          | _ => none
        else
          match gbPair? b1 b2 with
          | some c => (decodeGb rest).map (c :: ·)
          | none => none

/-- A character, or two that combine, of two bytes. -/
def big5Pair? (lead trail : UInt8) : Option (List Char) :=
  if (0x40 ≤ trail && trail ≤ 0x7E) || (0xA1 ≤ trail && trail ≤ 0xFE) then
    let skipped := if trail < 0x7F then 0x40 else 0x62
    let pointer := (lead.toNat - 0x81) * 157 + (trail.toNat - skipped)
    if pointer == 1133 then some ['\u00CA', '\u0304']
    else if pointer == 1135 then some ['\u00CA', '\u030C']
    else if pointer == 1164 then some ['\u00EA', '\u0304']
    else if pointer == 1166 then some ['\u00EA', '\u030C']
    else (CharsetIndex.char? CharsetIndex.big5 pointer).map fun c => [c]
  else none

def decodeBig5 : Bytes → Option (List Char)
  | [] => some []
  | b1 :: rest =>
    if b1 < 0x80 then (decodeBig5 rest).map (Char.ofNat b1.toNat :: ·)
    else if 0x81 ≤ b1 && b1 ≤ 0xFE then
      match rest with
      | [] => none
      | b2 :: rest =>
        match big5Pair? b1 b2 with
        | some cs => (decodeBig5 rest).map (cs ++ ·)
        | none => none
    else none

end RecordFlow.Chinese
