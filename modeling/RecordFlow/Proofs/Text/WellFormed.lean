import RecordFlow.Proofs.Text.Utf8
import Mathlib.Data.List.Forall2

/-!
# Well-formed UTF-8

Which byte sequences are UTF-8 is said by a table with one row for each shape that the form of a
scalar value can have.  The ranges in it leave out overlong forms, surrogates and values past
U+10FFFF, and a truncated form fits no row.  The sequences of such forms are exactly the bytes of
texts, so they are exactly what strict decoding accepts.
-/

namespace RecordFlow.Utf8

open String (utf8EncodeChar)

/-- The shapes of the form of a scalar value: the least and the greatest value of each byte. -/
def formRows : List (List (Nat × Nat)) := [
  [(0x00, 0x7F)],
  [(0xC2, 0xDF), (0x80, 0xBF)],
  [(0xE0, 0xE0), (0xA0, 0xBF), (0x80, 0xBF)],
  [(0xE1, 0xEC), (0x80, 0xBF), (0x80, 0xBF)],
  [(0xED, 0xED), (0x80, 0x9F), (0x80, 0xBF)],
  [(0xEE, 0xEF), (0x80, 0xBF), (0x80, 0xBF)],
  [(0xF0, 0xF0), (0x90, 0xBF), (0x80, 0xBF), (0x80, 0xBF)],
  [(0xF1, 0xF3), (0x80, 0xBF), (0x80, 0xBF), (0x80, 0xBF)],
  [(0xF4, 0xF4), (0x80, 0x8F), (0x80, 0xBF), (0x80, 0xBF)]]

/-- There is one byte for each range of the row, and it is in that range. -/
def Fits (row : List (Nat × Nat)) (form : Bytes) : Prop :=
  List.Forall₂ (fun range b => range.1 ≤ b.toNat ∧ b.toNat ≤ range.2) row form

/-- The bytes are a sequence of forms that fit rows of the table. -/
def WellFormed (bytes : Bytes) : Prop :=
  ∃ forms : List Bytes, bytes = forms.flatten ∧
    ∀ form ∈ forms, ∃ row ∈ formRows, Fits row form

/-! ## Forms are characters -/

/-- What fits a row is the form of a character. -/
theorem exists_char_of_fits {row : List (Nat × Nat)} {form : Bytes} (hrow : row ∈ formRows)
    (h : Fits row form) : ∃ c, form = utf8EncodeChar c := by
  simp only [formRows, List.mem_cons, List.not_mem_nil, or_false] at hrow
  rcases hrow with rfl | rfl | rfl | rfl | rfl | rfl | rfl | rfl | rfl
  · rcases h with _ | ⟨h0, _ | _⟩
    exact ⟨_, (utf8EncodeChar_one (by omega)).symm⟩
  · rcases h with _ | ⟨h0, _ | ⟨h1, _ | _⟩⟩
    exact ⟨_, (utf8EncodeChar_two h0.1 h0.2 (isContinuation_iff.2 h1)).symm⟩
  iterate 4
    · rcases h with _ | ⟨h0, _ | ⟨h1, _ | ⟨h2, _ | _⟩⟩⟩
      rename_i b0 b1 b2
      have hsecond : isSecondOfThree b0 b1 = true := isSecondOfThree_iff.2 (by omega)
      exact ⟨_, (utf8EncodeChar_three (by omega) (by omega) hsecond
        (isContinuation_iff.2 h2)).symm⟩
  all_goals
    rcases h with _ | ⟨h0, _ | ⟨h1, _ | ⟨h2, _ | ⟨h3, _ | _⟩⟩⟩⟩
    rename_i b0 b1 b2 b3
    have hsecond : isSecondOfFour b0 b1 = true := isSecondOfFour_iff.2 (by omega)
    exact ⟨_, (utf8EncodeChar_four (by omega) (by omega) hsecond
      (isContinuation_iff.2 h2) (isContinuation_iff.2 h3)).symm⟩

/-- The form of a character fits a row. -/
theorem exists_row_of_char (c : Char) : ∃ row ∈ formRows, Fits row (utf8EncodeChar c) := by
  rcases utf8EncodeChar_cases c with ⟨hle, henc⟩ | ⟨hge, hle, henc⟩ | ⟨hge, hle, hgap, henc⟩ |
    ⟨hge, hlt, henc⟩
  -- Rows for another number of bytes fall away, and the number of the character picks the row.
  all_goals
    rw [henc]
    simp (disch := omega) only [formRows, Fits, List.exists_mem_cons_iff, List.forall₂_cons,
      List.forall₂_nil_left_iff, List.forall₂_nil_right_iff, toNat_ofNat, reduceCtorEq,
      List.not_mem_nil, false_and, exists_false, and_false, and_true, false_or, or_false]
    omega

/-- The well-formed sequences are the bytes of texts. -/
theorem wellFormed_iff {bytes : Bytes} : WellFormed bytes ↔ ∃ text, bytes = encode text := by
  constructor
  · rintro ⟨forms, rfl, hforms⟩
    induction forms with
    | nil => exact ⟨"", rfl⟩
    | cons form forms ih =>
      obtain ⟨row, hrow, hfits⟩ := hforms form List.mem_cons_self
      obtain ⟨c, rfl⟩ := exists_char_of_fits hrow hfits
      obtain ⟨text, htext⟩ := ih fun f hf => hforms f (List.mem_cons_of_mem _ hf)
      refine ⟨String.ofList (c :: text.toList), ?_⟩
      rw [List.flatten_cons, htext, encode_ofList, encodeChars_cons]
      rfl
  · rintro ⟨text, rfl⟩
    refine ⟨text.toList.map utf8EncodeChar, List.flatMap_def, fun form hform => ?_⟩
    obtain ⟨c, -, rfl⟩ := List.mem_map.1 hform
    exact exists_row_of_char c

/-- Strict decoding accepts the well-formed sequences. -/
theorem wellFormed_iff_decode? {bytes : Bytes} : WellFormed bytes ↔ decode? bytes ≠ none := by
  rw [wellFormed_iff, ne_eq, decode?_eq_none]
  simp only [not_forall, not_not]

/-- An overlong form, a surrogate and a truncated form. -/
example : decode? [0xC0, 0x80] = none ∧ decode? [0xED, 0xA0, 0x80] = none ∧
    decode? [0xF0, 0x9F, 0x98] = none := by
  decide

end RecordFlow.Utf8
