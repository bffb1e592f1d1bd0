import RecordFlow.Proofs.Text.Utf8
import RecordFlow.Url.Percent

/-!
# Percent-encoding

Bytes are read back from the percent signs and digits they are written with, and an encoded text
holds nothing but these and the characters that need no encoding.
-/

namespace RecordFlow.Url

open Utf8 (encodeChars)
open String (utf8EncodeChar)

/-! ## Letters -/

/-- The codes of letters. -/
theorem toNat_of_isAlpha {c : Char} (h : c.isAlpha = true) :
    (0x41 ≤ c.toNat ∧ c.toNat ≤ 0x5A) ∨ (0x61 ≤ c.toNat ∧ c.toNat ≤ 0x7A) := by
  cases Bool.or_eq_true_iff.1 h with
  | inl hupper => exact .inl (of_decide_eq_true hupper)
  | inr hlower =>
    obtain ⟨hlow, hhigh⟩ := Bool.and_eq_true_iff.1 hlower
    exact .inr ⟨of_decide_eq_true hlow, of_decide_eq_true hhigh⟩

/-! ## What is written -/

/-- Percent signs and upper-case hexadecimal digits. -/
def IsPercentMark (c : Char) : Prop := c = '%' ∨ ∃ n < 16, c = upperHexDigit n

instance (c : Char) : Decidable (IsPercentMark c) :=
  inferInstanceAs (Decidable (c = '%' ∨ ∃ n < 16, c = upperHexDigit n))

theorem isPercentMark_of_mem_percentByte {b : UInt8} {c : Char} (h : c ∈ percentByte b) :
    IsPercentMark c := by
  have hb := b.toNat_lt
  simp only [percentByte, List.mem_cons, List.not_mem_nil, or_false] at h
  rcases h with rfl | rfl | rfl
  · exact .inl rfl
  · exact .inr ⟨b.toNat / 16, by omega, rfl⟩
  · exact .inr ⟨b.toNat % 16, Nat.mod_lt _ (by decide), rfl⟩

theorem isPercentMark_of_mem_percentChar {c d : Char} (h : c ∈ percentChar d) :
    IsPercentMark c := by
  obtain ⟨b, -, hmem⟩ := List.mem_flatMap.1 h
  exact isPercentMark_of_mem_percentByte hmem

/-- An encoded text keeps no character of the set that is encoded. -/
theorem mem_percentEncode {inSet : Char → Bool} {text : List Char} {c : Char}
    (h : c ∈ percentEncode inSet text) : (c ∈ text ∧ inSet c = false) ∨ IsPercentMark c := by
  obtain ⟨d, hd, hmem⟩ := List.mem_flatMap.1 h
  cases hset : inSet d
  case true =>
    rw [hset, if_pos rfl] at hmem
    exact .inr (isPercentMark_of_mem_percentChar hmem)
  case false =>
    rw [hset, if_neg Bool.false_ne_true, List.mem_singleton] at hmem
    subst hmem
    exact .inl ⟨hd, hset⟩

/-! ## What is read -/

def hexCode (n : Nat) : UInt8 := UInt8.ofNat (upperHexDigit n).toNat

theorem encode_upperHexDigit : ∀ n < 16, utf8EncodeChar (upperHexDigit n) = [hexCode n] := by
  decide

theorem hexByte?_hexCode : ∀ n < 16, hexByte? (hexCode n) = some n := by decide

theorem encodeChars_percentByte (b : UInt8) :
    encodeChars (percentByte b) = [0x25, hexCode (b.toNat / 16), hexCode (b.toNat % 16)] := by
  have hb := b.toNat_lt
  have hmark : utf8EncodeChar '%' = [0x25] := by decide
  simp only [percentByte, Utf8.encodeChars_cons, Utf8.encodeChars_nil, hmark,
    encode_upperHexDigit (b.toNat / 16) (by omega), encode_upperHexDigit (b.toNat % 16) (by omega),
    List.cons_append, List.nil_append]

/-- The two digits of a byte denote it. -/
theorem hexPair?_hexCode (b : UInt8) :
    hexPair? (hexCode (b.toNat / 16)) (hexCode (b.toNat % 16)) = some b := by
  have hb := b.toNat_lt
  have hvalue : b.toNat / 16 * 16 + b.toNat % 16 = b.toNat := by omega
  rw [hexPair?, hexByte?_hexCode _ (by omega), hexByte?_hexCode _ (by omega)]
  simp only [hvalue, UInt8.ofNat_toNat]

/-- Any byte but a percent sign stands for itself. -/
theorem percentDecode_cons {b : UInt8} (h : b ≠ 0x25) (rest : Bytes) :
    percentDecode (b :: rest) = b :: percentDecode rest := by
  match rest with
  | [] => rfl
  | [_] => rfl
  | _ :: _ :: _ => simp [percentDecode, h]

theorem percentDecode_percentByte (b : UInt8) (rest : Bytes) :
    percentDecode (encodeChars (percentByte b) ++ rest) = b :: percentDecode rest := by
  simp only [encodeChars_percentByte, List.cons_append, List.nil_append, percentDecode, BEq.rfl,
    if_true, hexPair?_hexCode]

/-- Encoded bytes are read back, whatever follows them. -/
theorem percentDecode_percentBytes (bytes rest : Bytes) :
    percentDecode (encodeChars (bytes.flatMap percentByte) ++ rest) =
      bytes ++ percentDecode rest := by
  induction bytes with
  | nil => rfl
  | cons b bytes ih =>
    rw [List.flatMap_cons, Utf8.encodeChars_append, List.append_assoc, percentDecode_percentByte,
      ih, List.cons_append]

end RecordFlow.Url
