import RecordFlow.Json.Document
import RecordFlow.Json.Printer
import RecordFlow.Proofs.Text.Utf8
import Mathlib.Tactic.SplitIfs

/-!
# Tokens of printed JSON

Cutting printed JSON into tokens finds the token of every scalar that was printed.  A
string is found whatever it holds: a character that JSON escapes is read as its code
unit and all others as their bytes, and together they give back the text.
-/

namespace RecordFlow.Json

open Utf8 (encodeChars)

/-! ## The token at the front -/

theorem tokens_of_scanToken {b : UInt8} {bytes rest : Bytes} {token : Token}
    (hlayout : isLayout b = false) (h : scanToken b bytes = some (token, rest)) :
    tokens (b :: bytes) = token :: tokens rest := by
  rw [tokens, hlayout]
  simp only [Bool.false_eq_true, if_false]
  split
  · rename_i found more hfound
    rw [h, Option.some.injEq, Prod.mk.injEq] at hfound
    rw [hfound.1, hfound.2]
  · rename_i hnone
    rw [h] at hnone
    exact absurd hnone (Option.some_ne_none _)

theorem tokens_of_mark {b : UInt8} {token : Token} (hlayout : isLayout b = false)
    (h : mark? b = some token) (bytes : Bytes) :
    tokens (b :: bytes) = token :: tokens bytes := by
  refine tokens_of_scanToken hlayout ?_
  simp only [scanToken, h]

/-! ## Strings -/

/-- Characters that do not stand for themselves inside a JSON string. -/
def isEscaped (c : Char) : Bool := c == '"' || c == '\\' || c.toNat < 0x20

/-- How a printed character is read. -/
def piecesOfChar (c : Char) : List Piece :=
  if isEscaped c then [.escaped c.toNat] else (String.utf8EncodeChar c).map .raw

def piecesOfText (text : List Char) : List Piece := text.flatMap piecesOfChar

@[simp] theorem piecesOfText_cons (c : Char) (text : List Char) :
    piecesOfText (c :: text) = piecesOfChar c ++ piecesOfText text := by
  simp [piecesOfText]

theorem escapeChar_of_not_isEscaped {c : Char} (h : isEscaped c = false) :
    escapeChar c = [c] := by
  have hctl {d : Char} (hd : d.toNat < 0x20) : c ≠ d := by
    rintro rfl
    simp [isEscaped, hd] at h
  simp only [isEscaped, Bool.or_eq_false_iff, beq_eq_false_iff_ne, decide_eq_false_iff_not] at h
  simp only [escapeChar, beq_iff_eq, h.1.1, h.1.2, h.2, hctl (d := '\x08') (by decide),
    hctl (d := '\x0c') (by decide), hctl (d := '\n') (by decide), hctl (d := '\r') (by decide),
    hctl (d := '\t') (by decide), if_false]

/-- Bytes that stand for themselves are scanned one by one. -/
theorem scanText_raw {bytes rest tail : Bytes} {more : List Piece}
    (hraw : ∀ b ∈ bytes, b ≠ 0x22 ∧ b ≠ 0x5C ∧ ¬ b < 0x20)
    (h : scanText rest = some (more, tail)) :
    scanText (bytes ++ rest) = some (bytes.map .raw ++ more, tail) := by
  induction bytes with
  | nil => exact h
  | cons b bytes ih =>
    obtain ⟨hquote, hslash, hcontrol⟩ := hraw b List.mem_cons_self
    have hmore := ih fun d hd => hraw d (List.mem_cons_of_mem b hd)
    rw [List.cons_append, scanText.eq_def]
    simp only [beq_iff_eq, hquote, hslash, hcontrol, if_false, hmore, consPiece]
    rfl

theorem raw_of_not_isEscaped {c : Char} (hc : isEscaped c = false) :
    ∀ b ∈ String.utf8EncodeChar c, b ≠ 0x22 ∧ b ≠ 0x5C ∧ ¬ b < 0x20 := by
  intro b hb
  simp only [isEscaped, Bool.or_eq_false_iff, beq_eq_false_iff_ne, decide_eq_false_iff_not] at hc
  obtain ⟨⟨hquote, hslash⟩, hcontrol⟩ := hc
  -- An ASCII byte would be the character itself.
  have hself (hascii : b.toNat < 0x80) : c.toNat = b.toNat :=
    (Utf8.mem_utf8EncodeChar_ascii hascii c).1 hb
  refine ⟨?_, ?_, ?_⟩
  · rintro rfl
    exact hquote (Char.toNat_inj.1 (hself (by decide)))
  · rintro rfl
    exact hslash (Char.toNat_inj.1 (hself (by decide)))
  · intro hlt
    have hnat : b.toNat < 0x20 := UInt8.lt_iff_toNat_lt.1 hlt
    have := hself (Nat.lt_trans hnat (by decide))
    omega

theorem scanText_short {e : UInt8} {unit : Nat} {rest tail : Bytes} {more : List Piece}
    (he : e ≠ 0x75) (hunit : shortEscape? e = some unit)
    (h : scanText rest = some (more, tail)) :
    scanText (0x5C :: e :: rest) = some (.escaped unit :: more, tail) := by
  rw [scanText.eq_def]
  simp [he, hunit, h, consPiece]

theorem hexByte?_digitChar {d : Nat} (h : d < 16) :
    ∃ b, String.utf8EncodeChar (Nat.digitChar d) = [b] ∧ hexByte? b = some d := by
  have hall : ∀ d < 16,
      String.utf8EncodeChar (Nat.digitChar d) = [UInt8.ofNat (Nat.digitChar d).toNat] ∧
        hexByte? (UInt8.ofNat (Nat.digitChar d).toNat) = some d := by decide
  exact ⟨_, hall d h⟩

theorem scanText_hex {n : Nat} {rest tail : Bytes} {more : List Piece} (hn : n < 256)
    (h : scanText rest = some (more, tail)) :
    scanText (encodeChars (['\\', 'u', '0', '0'] ++ hexPair n) ++ rest) =
      some (.escaped n :: more, tail) := by
  obtain ⟨b1, henc1, hb1⟩ := hexByte?_digitChar (d := n / 16 % 16) (by omega)
  obtain ⟨b2, henc2, hb2⟩ := hexByte?_digitChar (d := n % 16) (by omega)
  have hbytes : encodeChars (['\\', 'u', '0', '0'] ++ hexPair n) =
      [0x5C, 0x75, 0x30, 0x30, b1, b2] := by
    simp only [hexPair, Utf8.encodeChars_append, Utf8.encodeChars_cons, henc1, henc2]
    rfl
  have hzero : hexByte? 0x30 = some 0 := by decide
  have hvalue : n / 16 % 16 * 16 + n % 16 = n := by omega
  rw [hbytes, scanText.eq_def]
  simp [hb1, hb2, hzero, h, consPiece, hvalue]

theorem scanText_escapeChar {c : Char} {rest tail : Bytes} {more : List Piece}
    (h : scanText rest = some (more, tail)) :
    scanText (encodeChars (escapeChar c) ++ rest) = some (piecesOfChar c ++ more, tail) := by
  by_cases hc : isEscaped c = true
  · rw [piecesOfChar, if_pos hc, List.singleton_append, escapeChar]
    simp only [beq_iff_eq]
    -- One case for each escape, in the order of the printer.
    split_ifs with hquote hslash hback hpage hfeed hreturn htab hcontrol
    · subst hquote
      exact scanText_short (by decide) rfl h
    · subst hslash
      exact scanText_short (by decide) rfl h
    · subst hback
      exact scanText_short (by decide) rfl h
    · subst hpage
      exact scanText_short (by decide) rfl h
    · subst hfeed
      exact scanText_short (by decide) rfl h
    · subst hreturn
      exact scanText_short (by decide) rfl h
    · subst htab
      exact scanText_short (by decide) rfl h
    · exact scanText_hex (Nat.lt_trans hcontrol (by decide)) h
    · simp [isEscaped, hquote, hslash, hcontrol] at hc
  · have hplain : isEscaped c = false := Bool.eq_false_iff.2 hc
    rw [piecesOfChar, if_neg hc, escapeChar_of_not_isEscaped hplain, Utf8.encodeChars_cons,
      Utf8.encodeChars_nil, List.append_nil]
    exact scanText_raw (raw_of_not_isEscaped hplain) h

/-- A printed string is scanned up to its closing quote. -/
theorem scanText_printed (text : List Char) (rest : Bytes) :
    scanText (encodeChars (text.flatMap escapeChar) ++ 0x22 :: rest) =
      some (piecesOfText text, rest) := by
  induction text with
  | nil =>
    rw [List.flatMap_nil, Utf8.encodeChars_nil, List.nil_append, scanText.eq_def]
    rfl
  | cons c text ih =>
    rw [List.flatMap_cons, Utf8.encodeChars_append, List.append_assoc, scanText_escapeChar ih,
      piecesOfText_cons]

theorem bytesOfPieces_raw_append (bytes : Bytes) (more : List Piece) :
    bytesOfPieces (bytes.map .raw ++ more) = (bytesOfPieces more).map (bytes ++ ·) := by
  induction bytes with
  | nil => simp
  | cons b bytes ih =>
    rw [List.map_cons, List.cons_append, bytesOfPieces, ih, Option.map_map]
    rfl

theorem bytesOfPieces_piecesOfText (text : List Char) :
    bytesOfPieces (piecesOfText text) = some (encodeChars text) := by
  induction text with
  | nil => rfl
  | cons c text ih =>
    rw [piecesOfText_cons, piecesOfChar]
    split_ifs with hc
    · -- Only ASCII is escaped, so the code unit is the character and no surrogate.
      have hascii : c.toNat < 0x80 := by
        simp only [isEscaped, Bool.or_eq_true, beq_iff_eq, decide_eq_true_eq] at hc
        rcases hc with (rfl | rfl) | hc
        · decide
        · decide
        · omega
      have hhigh : ¬ (0xD800 ≤ c.toNat ∧ c.toNat ≤ 0xDBFF) := by omega
      have hlow : ¬ (0xDC00 ≤ c.toNat ∧ c.toNat ≤ 0xDFFF) := by omega
      rw [List.singleton_append, bytesOfPieces.eq_def]
      simp [hhigh, hlow, ih, Char.ofNat_toNat]
    · rw [bytesOfPieces_raw_append, ih]
      rfl

/-- A printed string is read as its text. -/
theorem textOfPieces?_piecesOfText (text : String) :
    textOfPieces? (piecesOfText text.toList) = some text := by
  rw [textOfPieces?, bytesOfPieces_piecesOfText, Option.bind_some]
  exact Utf8.decode?_encode text

theorem tokens_stringChars (text : String) (rest : Bytes) :
    tokens (encodeChars (stringChars text) ++ rest) =
      .text (piecesOfText text.toList) :: tokens rest := by
  have hquote : encodeChars (stringChars text) ++ rest =
      0x22 :: (encodeChars (text.toList.flatMap escapeChar) ++ 0x22 :: rest) := by
    rw [stringChars, Utf8.encodeChars_cons, Utf8.encodeChars_append]
    simp only [List.append_assoc]
    rfl
  rw [hquote]
  refine tokens_of_scanToken rfl ?_
  simp [scanToken, mark?, scanText_printed]

/-! ## Integers -/

/-- What follows does not continue a number. -/
def EndsNumber (rest : Bytes) : Prop :=
  ∀ b ∈ rest.head?, digitByte? b = none ∧ b ≠ 0x2E ∧ b ≠ 0x65 ∧ b ≠ 0x45

def decimalDigits (n : Nat) : List Nat :=
  (Nat.toDigits 10 n).map fun c => c.toNat - '0'.toNat

theorem digit_byte {c : Char} (h : c.isDigit = true) :
    ∃ b, String.utf8EncodeChar c = [b] ∧ b.toNat = c.toNat ∧
      digitByte? b = some (c.toNat - '0'.toNat) := by
  have hrange : 48 ≤ c.toNat ∧ c.toNat ≤ 57 := Char.isDigit_iff_toNat.1 h
  have hb := Utf8.toNat_ofNat (n := c.toNat) (by omega)
  refine ⟨UInt8.ofNat c.toNat, Utf8.utf8EncodeChar_ascii (by omega), hb, ?_⟩
  simp only [digitByte?, Bool.and_eq_true, decide_eq_true_eq, UInt8.le_iff_toNat_le, hb,
    UInt8.reduceToNat]
  rw [if_pos hrange]
  rfl

theorem scanDigits_printed {digits : List Char} {rest : Bytes}
    (hdigits : ∀ c ∈ digits, c.isDigit = true)
    (hrest : ∀ b ∈ rest.head?, digitByte? b = none) :
    scanDigits (encodeChars digits ++ rest) =
      (digits.map fun c => c.toNat - '0'.toNat, rest) := by
  induction digits with
  | nil =>
    cases rest with
    | nil => rfl
    | cons b rest =>
      have hb := hrest b rfl
      rw [Utf8.encodeChars_nil, List.nil_append, scanDigits, hb]
      rfl
  | cons c digits ih =>
    obtain ⟨b, henc, -, hb⟩ := digit_byte (hdigits c List.mem_cons_self)
    have hmore := ih fun d hd => hdigits d (List.mem_cons_of_mem c hd)
    rw [Utf8.encodeChars_cons, henc, List.append_assoc, List.singleton_append, scanDigits, hb,
      hmore]
    rfl

theorem isDigit_of_mem_toDigits {c : Char} {n : Nat} (h : c ∈ Nat.toDigits 10 n) :
    c.isDigit = true :=
  Nat.isDigit_of_mem_toDigits (by decide) (by decide) h

theorem decimalDigits_of_lt {n : Nat} (h : n < 10) : decimalDigits n = [n] := by
  rw [decimalDigits, Nat.toDigits_of_lt_base h, List.map_singleton]
  exact congrArg (fun d => [d]) (Nat.toNat_digitChar_sub_48_of_lt_ten h)

theorem decimalDigits_of_le {n : Nat} (h : 10 ≤ n) :
    decimalDigits n = decimalDigits (n / 10) ++ [n % 10] := by
  have hlast : decimalDigits (n % 10) = [n % 10] := decimalDigits_of_lt (by omega)
  rw [← hlast, decimalDigits, decimalDigits, decimalDigits,
    Nat.toDigits_of_base_le (by decide) h, List.map_append,
    Nat.toDigits_of_lt_base (n := n % 10) (by omega)]

/-- Only zero starts with the digit zero. -/
theorem decimalDigits_of_pos {n : Nat} (h : 0 < n) :
    ∃ d more, decimalDigits n = (d + 1) :: more := by
  induction n using Nat.strongRecOn with
  | ind n ih =>
    by_cases hlt : n < 10
    · refine ⟨n - 1, [], ?_⟩
      rw [decimalDigits_of_lt hlt, Nat.sub_add_cancel h]
    · obtain ⟨d, more, hmore⟩ := ih (n / 10) (by omega) (by omega)
      refine ⟨d, more ++ [n % 10], ?_⟩
      rw [decimalDigits_of_le (by omega), hmore, List.cons_append]

theorem scanWhole_printed (n : Nat) {rest : Bytes}
    (hrest : ∀ b ∈ rest.head?, digitByte? b = none) :
    scanWhole (encodeChars (Nat.toDigits 10 n) ++ rest) = some (decimalDigits n, rest) := by
  rw [scanWhole, scanDigits_printed (fun c => isDigit_of_mem_toDigits) hrest, ← decimalDigits]
  rcases Nat.eq_zero_or_pos n with rfl | hpos
  · rw [decimalDigits_of_lt (by decide)]
    rfl
  · obtain ⟨d, more, hmore⟩ := decimalDigits_of_pos hpos
    rw [hmore]
    rfl

theorem scanFraction_ends {rest : Bytes} (h : EndsNumber rest) :
    scanFraction rest = some (none, rest) := by
  cases rest with
  | nil => rfl
  | cons b rest =>
    obtain ⟨-, hpoint, -⟩ := h b rfl
    simp [scanFraction, hpoint]

theorem scanExponent_ends {rest : Bytes} (h : EndsNumber rest) :
    scanExponent rest = some (none, rest) := by
  cases rest with
  | nil => rfl
  | cons b rest =>
    obtain ⟨-, -, hsmall, hlarge⟩ := h b rfl
    simp [scanExponent, hsmall, hlarge]

theorem scanUnsigned_printed (negative : Bool) (n : Nat) {rest : Bytes} (h : EndsNumber rest) :
    scanUnsigned negative (encodeChars (Nat.toDigits 10 n) ++ rest) =
      some (⟨negative, decimalDigits n, none, none⟩, rest) := by
  rw [scanUnsigned, scanWhole_printed n fun b hb => (h b hb).1]
  simp only [scanFraction_ends h, scanExponent_ends h]

theorem toDigits_eq_cons (n : Nat) :
    ∃ c digits, Nat.toDigits 10 n = c :: digits ∧ c.isDigit = true := by
  obtain ⟨c, digits, h⟩ := List.exists_cons_of_ne_nil (Nat.toDigits_ne_nil (n := n) (b := 10))
  refine ⟨c, digits, h, isDigit_of_mem_toDigits (n := n) ?_⟩
  rw [h]
  exact List.mem_cons_self

theorem tokens_natural (n : Nat) {rest : Bytes} (h : EndsNumber rest) :
    tokens (encodeChars (Nat.toDigits 10 n) ++ rest) =
      .number ⟨false, decimalDigits n, none, none⟩ :: tokens rest := by
  obtain ⟨c, digits, hcons, hc⟩ := toDigits_eq_cons n
  obtain ⟨b, henc, hb, hdigit⟩ := digit_byte hc
  have hscan := scanUnsigned_printed false n h
  rw [hcons, Utf8.encodeChars_cons, henc, List.append_assoc, List.singleton_append] at hscan ⊢
  have hrange : 48 ≤ b.toNat ∧ b.toNat ≤ 57 := hb ▸ Char.isDigit_iff_toNat.1 hc
  have hne (d : UInt8) (hd : d.toNat < 48 ∨ 57 < d.toNat) : b ≠ d := by
    rintro rfl
    omega
  refine tokens_of_scanToken ?_ ?_
  · simp [isLayout, hne 0x20, hne 0x0A, hne 0x0D, hne 0x09]
  · simp [scanToken, mark?, keyword?, scanNumber, hne, hscan]

theorem tokens_negative (n : Nat) {rest : Bytes} (h : EndsNumber rest) :
    tokens (encodeChars ('-' :: Nat.toDigits 10 n) ++ rest) =
      .number ⟨true, decimalDigits n, none, none⟩ :: tokens rest := by
  have hsign : encodeChars ('-' :: Nat.toDigits 10 n) ++ rest =
      0x2D :: (encodeChars (Nat.toDigits 10 n) ++ rest) := by
    rw [Utf8.encodeChars_cons, List.append_assoc]
    rfl
  rw [hsign]
  refine tokens_of_scanToken rfl ?_
  simp [scanToken, mark?, keyword?, scanNumber, scanUnsigned_printed true n h]

/-! ### Their values -/

theorem le_foldl_digits (acc : Nat) (digits : List Nat) :
    acc ≤ digits.foldl (fun n d => n * 10 + d) acc := by
  induction digits generalizing acc with
  | nil => exact Nat.le_refl _
  | cons d digits ih =>
    have := ih (acc * 10 + d)
    rw [List.foldl_cons]
    omega

theorem appendDigits_of_lt {acc : Nat} {digits : List Nat}
    (h : digits.foldl (fun n d => n * 10 + d) acc < UInt64.size) :
    appendDigits acc digits = (digits.foldl (fun n d => n * 10 + d) acc, []) := by
  induction digits generalizing acc with
  | nil => rfl
  | cons d digits ih =>
    rw [List.foldl_cons] at h ⊢
    have hfirst := Nat.lt_of_le_of_lt (le_foldl_digits _ digits) h
    rw [appendDigits, if_pos hfirst, ih h]

theorem foldl_decimalDigits (n : Nat) :
    (decimalDigits n).foldl (fun n d => n * 10 + d) 0 = n := by
  rw [decimalDigits, List.foldl_map]
  simp only [Nat.mul_comm _ 10]
  exact Nat.ofDigitChars_ten_toDigits

theorem value?_decimalDigits {negative : Bool} {n : Nat} (h : n < UInt64.size) :
    Literal.value? ⟨negative, decimalDigits n, none, none⟩ = some (integer negative n) := by
  have hlt : (decimalDigits n).foldl (fun n d => n * 10 + d) 0 < UInt64.size := by
    rwa [foldl_decimalDigits]
  rw [Literal.value?, appendDigits_of_lt hlt, foldl_decimalDigits]

/-- The number is an integer, and a negative one is below zero. -/
def Number.Exact : Number → Prop
  | .natural _ => True
  | .negative i => i < 0
  | .double _ => False

/-- The literal that is printed for an integer. -/
def Number.literal : Number → Literal
  | .natural n => ⟨false, decimalDigits n.toNat, none, none⟩
  | .negative i => ⟨true, decimalDigits i.toInt.natAbs, none, none⟩
  | .double _ => ⟨false, [], none, none⟩

theorem integer_negative {n : Nat} (hpos : n ≠ 0) (hle : n ≤ 0x8000000000000000) :
    integer true n = .negative (Int64.ofInt (-(n : Int))) := by
  have hdouble : (n == 0 || decide (0x8000000000000000 < n)) = false := by
    rw [Bool.or_eq_false_iff, beq_eq_false_iff_ne, decide_eq_false_iff_not, Nat.not_lt]
    exact ⟨hpos, hle⟩
  rw [integer, hdouble]
  rfl

theorem value?_literal {n : Number} (h : n.Exact) : n.literal.value? = some n := by
  cases n with
  | natural n =>
    rw [Number.literal, value?_decimalDigits n.toNat_lt, integer, UInt64.ofNat_toNat]
    rfl
  | negative i =>
    have hneg : i.toInt < 0 := Int64.lt_iff_toInt_lt.1 h
    have hlow : -2 ^ 63 ≤ i.toInt := Int64.le_toInt i
    have hback : -(i.toInt.natAbs : Int) = i.toInt := by omega
    have hsize : i.toInt.natAbs < UInt64.size :=
      Nat.lt_of_le_of_lt (m := 0x8000000000000000) (by omega) (by decide)
    rw [Number.literal, value?_decimalDigits hsize, integer_negative (by omega) (by omega),
      hback, Int64.ofInt_toInt]
  | double x => exact absurd h id

theorem toList_render_natural (n : UInt64) :
    (Number.natural n).render.toList = Nat.toDigits 10 n.toNat := Nat.toList_repr

theorem toList_render_negative {i : Int64} (h : i < 0) :
    (Number.negative i).render.toList = '-' :: Nat.toDigits 10 i.toInt.natAbs := by
  have hneg : i.toInt < 0 := Int64.lt_iff_toInt_lt.1 h
  have habs : (-i.toInt).toNat = i.toInt.natAbs := by omega
  have hrepr : (Number.negative i).render = "-" ++ i.toInt.natAbs.repr := by
    rw [Number.render, Int.toString_eq_repr, Int.repr_eq_if, if_neg (by omega), habs]
  rw [hrepr, String.toList_append, Nat.toList_repr]
  rfl

theorem tokens_number {n : Number} (hn : n.Exact) {rest : Bytes} (h : EndsNumber rest) :
    tokens (encodeChars n.render.toList ++ rest) = .number n.literal :: tokens rest := by
  cases n with
  | natural n =>
    rw [toList_render_natural]
    exact tokens_natural n.toNat h
  | negative i =>
    rw [toList_render_negative hn]
    exact tokens_negative i.toInt.natAbs h
  | double x => exact absurd hn id

/-! ## Keywords -/

theorem tokens_null (rest : Bytes) :
    tokens (encodeChars ['n', 'u', 'l', 'l'] ++ rest) = .null :: tokens rest :=
  tokens_of_scanToken rfl rfl

theorem tokens_true (rest : Bytes) :
    tokens (encodeChars ['t', 'r', 'u', 'e'] ++ rest) = .bool true :: tokens rest :=
  tokens_of_scanToken rfl rfl

theorem tokens_false (rest : Bytes) :
    tokens (encodeChars ['f', 'a', 'l', 's', 'e'] ++ rest) = .bool false :: tokens rest :=
  tokens_of_scanToken rfl rfl

end RecordFlow.Json
