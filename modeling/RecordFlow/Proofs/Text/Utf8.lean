import RecordFlow.Text.Utf8

/-!
# The UTF-8 round trip

Strict decoding inverts encoding.  Every scalar value is written with a lead byte that
tells the length of its form and with continuation bytes that carry six bits each, and
cutting a byte sequence into segments finds exactly these forms.  Where it finds a scalar
value the bytes are its form, so nothing but the bytes of a text is accepted.  No byte of a longer
form is ASCII, so a text contains an ASCII character exactly where its bytes do, and
the order of texts is the order of their bytes.
-/

namespace RecordFlow.Utf8

open String (utf8EncodeChar)

theorem toNat_ofNat {n : Nat} (h : n < 256) : (UInt8.ofNat n).toNat = n :=
  UInt8.toNat_ofNat_of_lt' h

/-! ## Segments by their lead byte -/

theorem isContinuation_iff {b : UInt8} :
    isContinuation b = true ↔ 0x80 ≤ b.toNat ∧ b.toNat ≤ 0xBF := by
  simp only [isContinuation, Bool.and_eq_true, decide_eq_true_eq, UInt8.le_iff_toNat_le]
  rfl

theorem isSecondOfThree_iff {lead b : UInt8} :
    isSecondOfThree lead b = true ↔
      (0x80 ≤ b.toNat ∧ b.toNat ≤ 0xBF) ∧ (lead.toNat = 0xE0 → 0xA0 ≤ b.toNat) ∧
        (lead.toNat = 0xED → b.toNat ≤ 0x9F) := by
  simp only [isSecondOfThree, beq_iff_eq, ← UInt8.toNat_inj, UInt8.reduceToNat]
  split
  · simp only [Bool.and_eq_true, decide_eq_true_eq, UInt8.le_iff_toNat_le, UInt8.reduceToNat]
    omega
  · split
    · simp only [Bool.and_eq_true, decide_eq_true_eq, UInt8.le_iff_toNat_le, UInt8.reduceToNat]
      omega
    · rw [isContinuation_iff]
      omega

theorem isSecondOfFour_iff {lead b : UInt8} :
    isSecondOfFour lead b = true ↔
      (0x80 ≤ b.toNat ∧ b.toNat ≤ 0xBF) ∧ (lead.toNat = 0xF0 → 0x90 ≤ b.toNat) ∧
        (lead.toNat = 0xF4 → b.toNat ≤ 0x8F) := by
  simp only [isSecondOfFour, beq_iff_eq, ← UInt8.toNat_inj, UInt8.reduceToNat]
  split
  · simp only [Bool.and_eq_true, decide_eq_true_eq, UInt8.le_iff_toNat_le, UInt8.reduceToNat]
    omega
  · split
    · simp only [Bool.and_eq_true, decide_eq_true_eq, UInt8.le_iff_toNat_le, UInt8.reduceToNat]
      omega
    · rw [isContinuation_iff]
      omega

theorem isContinuation_ofNat (n : Nat) :
    isContinuation (UInt8.ofNat (n % 64 + 128)) = true := by
  rw [isContinuation_iff, toNat_ofNat (by omega)]
  omega

theorem payload_ofNat (n : Nat) : payload (UInt8.ofNat (n % 64 + 128)) = n % 64 := by
  rw [payload, toNat_ofNat (by omega)]
  omega

theorem segments_one {b : UInt8} (h : b.toNat < 0x80) (rest : Bytes) :
    segments (b :: rest) = .scalar (Char.ofNat b.toNat) :: segments rest := by
  have hlt : b < 0x80 := UInt8.lt_iff_toNat_lt.2 h
  rw [segments.eq_def]
  simp only [hlt, if_true]

theorem segments_two {b0 b1 : UInt8} (hlow : 0xC2 ≤ b0.toNat) (hhigh : b0.toNat ≤ 0xDF)
    (h1 : isContinuation b1 = true) (rest : Bytes) :
    segments (b0 :: b1 :: rest) =
      .scalar (Char.ofNat (b0.toNat % 32 * 64 + payload b1)) :: segments rest := by
  have h80 : ¬ b0 < 0x80 := by
    rw [UInt8.lt_iff_toNat_lt]
    exact Nat.not_lt.2 (Nat.le_trans (by decide) hlow)
  have hc2 : 0xC2 ≤ b0 := UInt8.le_iff_toNat_le.2 hlow
  have hdf : b0 ≤ 0xDF := UInt8.le_iff_toNat_le.2 hhigh
  rw [segments.eq_def]
  simp only [h80, hc2, hdf, h1, decide_true, Bool.and_self, if_true, if_false]

theorem segments_three {b0 b1 b2 : UInt8} (hlow : 0xE0 ≤ b0.toNat)
    (hhigh : b0.toNat ≤ 0xEF) (h1 : isSecondOfThree b0 b1 = true)
    (h2 : isContinuation b2 = true) (rest : Bytes) :
    segments (b0 :: b1 :: b2 :: rest) =
      .scalar (Char.ofNat (b0.toNat % 16 * 4096 + payload b1 * 64 + payload b2))
        :: segments rest := by
  have h80 : ¬ b0 < 0x80 := by
    rw [UInt8.lt_iff_toNat_lt]
    exact Nat.not_lt.2 (Nat.le_trans (by decide) hlow)
  have hdf : ¬ b0 ≤ 0xDF := by
    rw [UInt8.le_iff_toNat_le]
    exact Nat.not_le.2 hlow
  have he0 : 0xE0 ≤ b0 := UInt8.le_iff_toNat_le.2 hlow
  have hef : b0 ≤ 0xEF := UInt8.le_iff_toNat_le.2 hhigh
  rw [segments.eq_def]
  simp only [h80, hdf, he0, hef, h1, h2, decide_true, decide_false, Bool.and_self,
    Bool.and_false, Bool.false_eq_true, if_true, if_false]

theorem segments_four {b0 b1 b2 b3 : UInt8} (hlow : 0xF0 ≤ b0.toNat)
    (hhigh : b0.toNat ≤ 0xF4) (h1 : isSecondOfFour b0 b1 = true)
    (h2 : isContinuation b2 = true) (h3 : isContinuation b3 = true) (rest : Bytes) :
    segments (b0 :: b1 :: b2 :: b3 :: rest) =
      .scalar (Char.ofNat (b0.toNat % 8 * 262144 + payload b1 * 4096
        + payload b2 * 64 + payload b3)) :: segments rest := by
  have h80 : ¬ b0 < 0x80 := by
    rw [UInt8.lt_iff_toNat_lt]
    exact Nat.not_lt.2 (Nat.le_trans (by decide) hlow)
  have hdf : ¬ b0 ≤ 0xDF := by
    rw [UInt8.le_iff_toNat_le]
    exact Nat.not_le.2 (Nat.le_trans (by decide) hlow)
  have hef : ¬ b0 ≤ 0xEF := by
    rw [UInt8.le_iff_toNat_le]
    exact Nat.not_le.2 hlow
  have hf0 : 0xF0 ≤ b0 := UInt8.le_iff_toNat_le.2 hlow
  have hf4 : b0 ≤ 0xF4 := UInt8.le_iff_toNat_le.2 hhigh
  rw [segments.eq_def]
  simp only [h80, hdf, hef, hf0, hf4, h1, h2, h3, decide_true, decide_false, Bool.and_self,
    Bool.and_false, Bool.false_eq_true, if_true, if_false]

/-! ## Encoded characters -/

/-- The four forms of a character, by its size. -/
theorem utf8EncodeChar_cases (c : Char) :
    (c.toNat ≤ 0x7F ∧ utf8EncodeChar c = [UInt8.ofNat c.toNat]) ∨
    (0x80 ≤ c.toNat ∧ c.toNat ≤ 0x7FF ∧
      utf8EncodeChar c =
        [UInt8.ofNat (c.toNat / 64 + 192), UInt8.ofNat (c.toNat % 64 + 128)]) ∨
    (0x800 ≤ c.toNat ∧ c.toNat ≤ 0xFFFF ∧ (c.toNat < 0xD800 ∨ 0xDFFF < c.toNat) ∧
      utf8EncodeChar c =
        [UInt8.ofNat (c.toNat / 4096 + 224), UInt8.ofNat (c.toNat / 64 % 64 + 128),
          UInt8.ofNat (c.toNat % 64 + 128)]) ∨
    (0x10000 ≤ c.toNat ∧ c.toNat < 0x110000 ∧
      utf8EncodeChar c =
        [UInt8.ofNat (c.toNat / 262144 + 240), UInt8.ofNat (c.toNat / 4096 % 64 + 128),
          UInt8.ofNat (c.toNat / 64 % 64 + 128), UInt8.ofNat (c.toNat % 64 + 128)]) := by
  have hvalid : c.toNat < 0xD800 ∨ (0xDFFF < c.toNat ∧ c.toNat < 0x110000) := c.valid
  have hval : c.val.toNat = c.toNat := rfl
  by_cases h1 : c.toNat ≤ 0x7F
  · exact .inl ⟨h1, by simp only [utf8EncodeChar, hval, h1, if_true]⟩
  by_cases h2 : c.toNat ≤ 0x7FF
  · refine .inr (.inl ⟨by omega, h2, ?_⟩)
    have hlead : c.toNat / 64 % 32 = c.toNat / 64 := by omega
    simp only [utf8EncodeChar, hval, h1, h2, if_true, if_false, hlead]
  by_cases h3 : c.toNat ≤ 0xFFFF
  · refine .inr (.inr (.inl ⟨by omega, h3, by omega, ?_⟩))
    have hlead : c.toNat / 4096 % 16 = c.toNat / 4096 := by omega
    simp only [utf8EncodeChar, hval, h1, h2, h3, if_true, if_false, hlead]
  · refine .inr (.inr (.inr ⟨by omega, by omega, ?_⟩))
    have hlead : c.toNat / 262144 % 8 = c.toNat / 262144 := by omega
    simp only [utf8EncodeChar, hval, h1, h2, h3, if_false, hlead]

/-- The form of an ASCII character is its number. -/
theorem utf8EncodeChar_ascii {c : Char} (h : c.toNat < 0x80) :
    utf8EncodeChar c = [UInt8.ofNat c.toNat] := by
  rcases utf8EncodeChar_cases c with ⟨-, henc⟩ | ⟨hge, -⟩ | ⟨hge, -⟩ | ⟨hge, -⟩
  · exact henc
  all_goals omega

/-- Cutting finds the form of a character at the front of any bytes. -/
theorem segments_utf8EncodeChar_append (c : Char) (rest : Bytes) :
    segments (utf8EncodeChar c ++ rest) = .scalar c :: segments rest := by
  have hc : Char.ofNat c.toNat = c := Char.ofNat_toNat c
  rcases utf8EncodeChar_cases c with ⟨hle, henc⟩ | ⟨hge, hle, henc⟩ | ⟨hge, hle, hgap, henc⟩ |
    ⟨hge, hlt, henc⟩
  · have hb := toNat_ofNat (n := c.toNat) (by omega)
    rw [henc, List.singleton_append, segments_one (by omega), hb, hc]
  · have hb := toNat_ofNat (n := c.toNat / 64 + 192) (by omega)
    have hvalue : (c.toNat / 64 + 192) % 32 * 64 + c.toNat % 64 = c.toNat := by omega
    rw [henc, List.cons_append, List.singleton_append,
      segments_two (by omega) (by omega) (isContinuation_ofNat _), hb, payload_ofNat, hvalue, hc]
  · have hb := toNat_ofNat (n := c.toNat / 4096 + 224) (by omega)
    have hb1 := toNat_ofNat (n := c.toNat / 64 % 64 + 128) (by omega)
    have hsecond : isSecondOfThree (UInt8.ofNat (c.toNat / 4096 + 224))
        (UInt8.ofNat (c.toNat / 64 % 64 + 128)) = true := by
      rw [isSecondOfThree_iff, hb, hb1]
      omega
    have hvalue : (c.toNat / 4096 + 224) % 16 * 4096 + c.toNat / 64 % 64 * 64 + c.toNat % 64 =
        c.toNat := by omega
    rw [henc, List.cons_append, List.cons_append, List.singleton_append,
      segments_three (by omega) (by omega) hsecond (isContinuation_ofNat _), hb,
      payload_ofNat, payload_ofNat, hvalue, hc]
  · have hb := toNat_ofNat (n := c.toNat / 262144 + 240) (by omega)
    have hb1 := toNat_ofNat (n := c.toNat / 4096 % 64 + 128) (by omega)
    have hsecond : isSecondOfFour (UInt8.ofNat (c.toNat / 262144 + 240))
        (UInt8.ofNat (c.toNat / 4096 % 64 + 128)) = true := by
      rw [isSecondOfFour_iff, hb, hb1]
      omega
    have hvalue : (c.toNat / 262144 + 240) % 8 * 262144 + c.toNat / 4096 % 64 * 4096
        + c.toNat / 64 % 64 * 64 + c.toNat % 64 = c.toNat := by omega
    rw [henc, List.cons_append, List.cons_append, List.cons_append, List.singleton_append,
      segments_four (by omega) (by omega) hsecond (isContinuation_ofNat _)
        (isContinuation_ofNat _), hb, payload_ofNat, payload_ofNat, payload_ofNat, hvalue, hc]

/-! ## Encoded texts -/

theorem segments_encodeChars_append (text : List Char) (rest : Bytes) :
    segments (encodeChars text ++ rest) = text.map .scalar ++ segments rest := by
  induction text with
  | nil => rfl
  | cons c text ih =>
    rw [encodeChars_cons, List.append_assoc, segments_utf8EncodeChar_append, ih]
    rfl

theorem textOf_map_scalar (index : Nat) (text : List Char) :
    textOf index (text.map .scalar) = .ok text := by
  induction text generalizing index with
  | nil => rfl
  | cons c text ih => rw [List.map_cons, textOf, ih]

theorem segments_encodeChars (text : List Char) :
    segments (encodeChars text) = text.map .scalar := by
  have h := segments_encodeChars_append text []
  rwa [List.append_nil, segments, List.append_nil] at h

/-- Strict decoding inverts encoding. -/
theorem decode_encode (text : String) : decode (encode text) = .ok text := by
  rw [decode, encode, segments_encodeChars, textOf_map_scalar]
  simp [Except.map]

@[simp] theorem decode?_encode (text : String) : decode? (encode text) = some text := by
  rw [decode?, decode_encode]
  rfl

/-- Lossy decoding loses nothing of a text. -/
theorem decodeLossy_encode (text : String) : decodeLossy (encode text) = text := by
  have hshown : Segment.shown ∘ Segment.scalar = id := rfl
  rw [decodeLossy, encode, segments_encodeChars, List.map_map, hshown, List.map_id,
    String.ofList_toList]

theorem encode_ofList (text : List Char) : encode (String.ofList text) = encodeChars text := by
  rw [encode, String.toList_ofList]

theorem encode_append (a b : String) : encode (a ++ b) = encode a ++ encode b := by
  rw [encode, String.toList_append, encodeChars_append]
  rfl

/-- An ASCII byte stands in the form of a character only as the character itself. -/
theorem mem_utf8EncodeChar_ascii {b : UInt8} (hb : b.toNat < 0x80) (c : Char) :
    b ∈ utf8EncodeChar c ↔ c.toNat = b.toNat := by
  rcases utf8EncodeChar_cases c with ⟨hle, henc⟩ | ⟨hge, hle, henc⟩ | ⟨hge, hle, -, henc⟩ |
    ⟨hge, hlt, henc⟩
  all_goals
    rw [henc]
    simp only [List.mem_cons, List.not_mem_nil, or_false, ← UInt8.toNat_inj, UInt8.toNat_ofNat']
    omega

theorem mem_encodeChars_ascii {b : UInt8} (hb : b.toNat < 0x80) (text : List Char) :
    b ∈ encodeChars text ↔ ∃ c ∈ text, c.toNat = b.toNat := by
  simp only [encodeChars, List.mem_flatMap, mem_utf8EncodeChar_ascii hb]

/-- The bytes of a text contain a line feed exactly where the text does. -/
theorem lineFeed_mem_encodeChars (text : List Char) :
    0x0A ∈ encodeChars text ↔ '\n' ∈ text := by
  rw [mem_encodeChars_ascii (by decide)]
  constructor
  · rintro ⟨c, hc, heq⟩
    have hfeed : c = '\n' := Char.toNat_inj.1 heq
    exact hfeed ▸ hc
  · intro h
    exact ⟨'\n', h, rfl⟩

/-! ## Decoded bytes -/

theorem toNat_charOfNat {n : Nat} (h : n < 0xD800 ∨ (0xDFFF < n ∧ n < 0x110000)) :
    (Char.ofNat n).toNat = n := by
  rw [Char.ofNat, dif_pos h]
  rfl

/-- A byte is the form of its number. -/
theorem ofNat_of_toNat {b : UInt8} {n : Nat} (h : b.toNat = n) : UInt8.ofNat n = b := by
  rw [← h, UInt8.ofNat_toNat]

theorem payload_eq {b : UInt8} (h : 0x80 ≤ b.toNat ∧ b.toNat ≤ 0xBF) :
    b.toNat = payload b + 128 ∧ payload b < 64 := by
  rw [payload]
  omega

theorem utf8EncodeChar_one {b : UInt8} (h : b.toNat < 0x80) :
    utf8EncodeChar (Char.ofNat b.toNat) = [b] := by
  have hc := toNat_charOfNat (n := b.toNat) (by omega)
  rw [utf8EncodeChar_ascii (by omega), hc, UInt8.ofNat_toNat]

theorem utf8EncodeChar_two {b0 b1 : UInt8} (hlow : 0xC2 ≤ b0.toNat) (hhigh : b0.toNat ≤ 0xDF)
    (h1 : isContinuation b1 = true) :
    utf8EncodeChar (Char.ofNat (b0.toNat % 32 * 64 + payload b1)) = [b0, b1] := by
  obtain ⟨hb1, hp1⟩ := payload_eq (isContinuation_iff.1 h1)
  have hc := toNat_charOfNat (n := b0.toNat % 32 * 64 + payload b1) (by omega)
  rcases utf8EncodeChar_cases (Char.ofNat (b0.toNat % 32 * 64 + payload b1)) with
    ⟨hle, -⟩ | ⟨-, -, henc⟩ | ⟨hge, -, -, -⟩ | ⟨hge, -, -⟩
  · omega
  · rw [henc, hc, ofNat_of_toNat (b := b0) (by omega), ofNat_of_toNat (b := b1) (by omega)]
  all_goals omega

theorem utf8EncodeChar_three {b0 b1 b2 : UInt8} (hlow : 0xE0 ≤ b0.toNat)
    (hhigh : b0.toNat ≤ 0xEF) (h1 : isSecondOfThree b0 b1 = true)
    (h2 : isContinuation b2 = true) :
    utf8EncodeChar (Char.ofNat (b0.toNat % 16 * 4096 + payload b1 * 64 + payload b2)) =
      [b0, b1, b2] := by
  obtain ⟨hrange, hoverlong, hsurrogate⟩ := isSecondOfThree_iff.1 h1
  obtain ⟨hb1, hp1⟩ := payload_eq hrange
  obtain ⟨hb2, hp2⟩ := payload_eq (isContinuation_iff.1 h2)
  have hc := toNat_charOfNat
    (n := b0.toNat % 16 * 4096 + payload b1 * 64 + payload b2) (by omega)
  rcases utf8EncodeChar_cases
      (Char.ofNat (b0.toNat % 16 * 4096 + payload b1 * 64 + payload b2)) with
    ⟨hle, -⟩ | ⟨-, hle, -⟩ | ⟨-, -, -, henc⟩ | ⟨hge, -, -⟩
  · omega
  · omega
  · rw [henc, hc, ofNat_of_toNat (b := b0) (by omega), ofNat_of_toNat (b := b1) (by omega),
      ofNat_of_toNat (b := b2) (by omega)]
  · omega

theorem utf8EncodeChar_four {b0 b1 b2 b3 : UInt8} (hlow : 0xF0 ≤ b0.toNat)
    (hhigh : b0.toNat ≤ 0xF4) (h1 : isSecondOfFour b0 b1 = true)
    (h2 : isContinuation b2 = true) (h3 : isContinuation b3 = true) :
    utf8EncodeChar (Char.ofNat (b0.toNat % 8 * 262144 + payload b1 * 4096
      + payload b2 * 64 + payload b3)) = [b0, b1, b2, b3] := by
  obtain ⟨hrange, hoverlong, hlargest⟩ := isSecondOfFour_iff.1 h1
  obtain ⟨hb1, hp1⟩ := payload_eq hrange
  obtain ⟨hb2, hp2⟩ := payload_eq (isContinuation_iff.1 h2)
  obtain ⟨hb3, hp3⟩ := payload_eq (isContinuation_iff.1 h3)
  have hc := toNat_charOfNat (n := b0.toNat % 8 * 262144 + payload b1 * 4096
    + payload b2 * 64 + payload b3) (by omega)
  rcases utf8EncodeChar_cases (Char.ofNat (b0.toNat % 8 * 262144 + payload b1 * 4096
      + payload b2 * 64 + payload b3)) with
    ⟨hle, -⟩ | ⟨-, hle, -⟩ | ⟨-, hle, -, -⟩ | ⟨-, -, henc⟩
  · omega
  · omega
  · omega
  · rw [henc, hc, ofNat_of_toNat (b := b0) (by omega), ofNat_of_toNat (b := b1) (by omega),
      ofNat_of_toNat (b := b2) (by omega), ofNat_of_toNat (b := b3) (by omega)]

theorem textOf_eq_ok {index : Nat} {pieces : List Segment} {text : List Char} :
    textOf index pieces = .ok text ↔ pieces = text.map .scalar := by
  constructor
  · intro h
    induction pieces generalizing index text with
    | nil =>
      cases h
      rfl
    | cons piece pieces ih =>
      cases piece with
      | scalar c =>
        rw [textOf] at h
        cases hrest : textOf (index + c.utf8Size) pieces with
        | ok rest =>
          rw [hrest] at h
          cases h
          rw [ih hrest, List.map_cons]
        | error fault =>
          rw [hrest] at h
          cases h
      | malformed n => cases h
      | unfinished => cases h
  · rintro rfl
    exact textOf_map_scalar index text

theorem toNat_mem_range {low b high : UInt8} (h : (decide (low ≤ b) && decide (b ≤ high)) = true) :
    low.toNat ≤ b.toNat ∧ b.toNat ≤ high.toNat := by
  rw [Bool.and_eq_true, decide_eq_true_eq, decide_eq_true_eq] at h
  exact ⟨UInt8.le_iff_toNat_le.1 h.1, UInt8.le_iff_toNat_le.1 h.2⟩

/-- Only the bytes of a text are cut into nothing but scalar values. -/
theorem eq_encodeChars_of_segments {bytes : Bytes} {text : List Char}
    (h : segments bytes = text.map .scalar) : bytes = encodeChars text := by
  fun_induction segments bytes generalizing text with
  | case1 =>
    rw [List.map_eq_nil_iff.1 h.symm]
    rfl
  | case2 b0 rest hlead ih =>
    obtain ⟨c, more, rfl, hc, hmore⟩ := List.map_eq_cons_iff.1 h.symm
    cases hc
    rw [encodeChars_cons, utf8EncodeChar_one (UInt8.lt_iff_toNat_lt.1 hlead), ← ih hmore.symm]
    rfl
  | case4 b0 _ hlead b1 rest h1 ih =>
    obtain ⟨c, more, rfl, hc, hmore⟩ := List.map_eq_cons_iff.1 h.symm
    cases hc
    obtain ⟨hlow, hhigh⟩ := toNat_mem_range hlead
    rw [encodeChars_cons, utf8EncodeChar_two hlow hhigh h1, ← ih hmore.symm]
    rfl
  | case8 b0 _ _ hlead b1 h1 b2 rest h2 ih =>
    obtain ⟨c, more, rfl, hc, hmore⟩ := List.map_eq_cons_iff.1 h.symm
    cases hc
    obtain ⟨hlow, hhigh⟩ := toNat_mem_range hlead
    rw [encodeChars_cons, utf8EncodeChar_three hlow hhigh h1 h2, ← ih hmore.symm]
    rfl
  | case14 b0 _ _ _ hlead b1 h1 b2 h2 b3 rest h3 ih =>
    obtain ⟨c, more, rfl, hc, hmore⟩ := List.map_eq_cons_iff.1 h.symm
    cases hc
    obtain ⟨hlow, hhigh⟩ := toNat_mem_range hlead
    rw [encodeChars_cons, utf8EncodeChar_four hlow hhigh h1 h2 h3, ← ih hmore.symm]
    rfl
  | _ =>
    -- The first piece is no scalar value.
    obtain ⟨c, more, rfl, hc, -⟩ := List.map_eq_cons_iff.1 h.symm
    cases hc

/-- Strict decoding accepts the bytes of a text, and no others. -/
theorem decode?_eq_some {bytes : Bytes} {text : String} :
    decode? bytes = some text ↔ bytes = encode text := by
  constructor
  · intro h
    rw [decode?, decode] at h
    cases hchars : textOf 0 (segments bytes) with
    | ok chars =>
      rw [hchars] at h
      cases h
      rw [encode_ofList]
      exact eq_encodeChars_of_segments (textOf_eq_ok.1 hchars)
    | error fault =>
      rw [hchars] at h
      cases h
  · rintro rfl
    exact decode?_encode text

theorem decode?_eq_none {bytes : Bytes} :
    decode? bytes = none ↔ ∀ text, bytes ≠ encode text := by
  rw [Option.eq_none_iff_forall_ne_some]
  exact forall_congr' fun text => not_congr decode?_eq_some

/-! ## Order -/

/-- The form of a smaller character comes first, whatever follows the two. -/
theorem utf8EncodeChar_append_lt {c d : Char} (h : c < d) (x y : Bytes) :
    utf8EncodeChar c ++ x < utf8EncodeChar d ++ y := by
  have hlt : c.toNat < d.toNat := h
  -- Two numbers differ first at the digit of base 64 where their forms do.
  have h64 : c.toNat / 64 < d.toNat / 64 ∨
      c.toNat / 64 = d.toNat / 64 ∧ c.toNat % 64 < d.toNat % 64 := by omega
  have h4096 : c.toNat / 64 < d.toNat / 64 → c.toNat / 4096 < d.toNat / 4096 ∨
      c.toNat / 4096 = d.toNat / 4096 ∧ c.toNat / 64 % 64 < d.toNat / 64 % 64 := by omega
  have h262144 : c.toNat / 4096 < d.toNat / 4096 → c.toNat / 262144 < d.toNat / 262144 ∨
      c.toNat / 262144 = d.toNat / 262144 ∧ c.toNat / 4096 % 64 < d.toNat / 4096 % 64 := by
    omega
  rcases utf8EncodeChar_cases c with ⟨_, hc⟩ | ⟨_, _, hc⟩ | ⟨_, _, -, hc⟩ | ⟨_, _, hc⟩ <;>
    rcases utf8EncodeChar_cases d with ⟨_, hd⟩ | ⟨_, _, hd⟩ | ⟨_, _, -, hd⟩ | ⟨_, _, hd⟩
  all_goals
    rw [hc, hd]
    simp (disch := omega) only [List.cons_append, List.nil_append, List.cons_lt_cons_iff,
      UInt8.lt_iff_toNat_lt, ← UInt8.toNat_inj, toNat_ofNat]
    omega

theorem encodeChars_lt_encodeChars {a b : List Char} (h : a < b) :
    encodeChars a < encodeChars b := by
  induction a generalizing b with
  | nil =>
    cases b with
    | nil => exact absurd h (List.not_lt_nil _)
    | cons d b =>
      obtain ⟨first, more, henc⟩ :=
        List.exists_cons_of_ne_nil (String.utf8EncodeChar_ne_nil (c := d))
      rw [encodeChars_cons, henc]
      exact List.nil_lt_cons _ _
  | cons c a ih =>
    cases b with
    | nil => exact absurd h (List.not_lt_nil _)
    | cons d b =>
      rw [encodeChars_cons, encodeChars_cons]
      rcases List.cons_lt_cons_iff.1 h with hlt | ⟨rfl, hlt⟩
      · exact utf8EncodeChar_append_lt hlt _ _
      · exact List.append_left_lt (ih hlt)

/-- Texts are ordered as their bytes are. -/
theorem encode_lt_encode_iff {a b : String} : encode a < encode b ↔ a < b := by
  constructor
  · intro h
    refine Decidable.byContradiction fun hnot => ?_
    have hle : b ≤ a := String.not_lt.1 hnot
    by_cases hba : b < a
    · exact List.lt_asymm h (encodeChars_lt_encodeChars hba)
    · have heq : a = b := String.le_antisymm (String.not_lt.1 hba) hle
      exact List.lt_irrefl _ (heq ▸ h)
  · intro h
    exact encodeChars_lt_encodeChars h

end RecordFlow.Utf8
