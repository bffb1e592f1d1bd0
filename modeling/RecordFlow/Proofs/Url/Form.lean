import RecordFlow.Proofs.Url.Percent
import RecordFlow.Url.Form

/-!
# Forms are read back

The reader of a form cuts its bytes at the ampersands, drops empty pieces, cuts each piece at
its first equals sign, and takes plus signs for spaces before it decodes the percent signs.
An encoded name or value holds neither an ampersand nor an equals sign and is decoded to the text
that was encoded, so pairs that are appended to a query are read after the pairs it held before.
-/

namespace RecordFlow.Url

open Utf8 (encodeChars)
open String (utf8EncodeChar)

/-! ## Reading a form -/

def ofPlus (b : UInt8) : UInt8 := if b = 0x2B then 0x20 else b

/-- The text that a name or a value of a form denotes. -/
def formText (bytes : Bytes) : String := Utf8.decodeLossy (percentDecode (bytes.map ofPlus))

/-- The name and the value of a piece, which are parted by its first equals sign; without one,
all of it is the name. -/
def formMember (piece : Bytes) : String × String :=
  (formText (piece.takeWhile (· != 0x3D)), formText ((piece.dropWhile (· != 0x3D)).drop 1))

/-- The pairs of a form. -/
def formMembers (form : Bytes) : List (String × String) :=
  ((form.splitOn 0x26).filter (!·.isEmpty)).map formMember

/-- The pairs of a query; a query that is absent has none. -/
def queryMembers (query : Option (List Char)) : List (String × String) :=
  formMembers (encodeChars (query.getD []))

/-! ## Encoded texts -/

/-- Unreserved characters are ASCII, and none of the marks that the reader replaces. -/
theorem toNat_of_isFormUnreserved {c : Char} (h : isFormUnreserved c = true) :
    c.toNat < 0x80 ∧ c.toNat ≠ 0x2B ∧ c.toNat ≠ 0x25 := by
  simp only [isFormUnreserved, Bool.or_eq_true, beq_iff_eq] at h
  rcases h with (((halnum | rfl) | rfl) | rfl) | rfl
  · cases Bool.or_eq_true_iff.1 halnum with
    | inl halpha =>
      have hcode := toNat_of_isAlpha halpha
      omega
    | inr hdigit =>
      have hcode : 0x30 ≤ c.toNat ∧ c.toNat ≤ 0x39 := Char.isDigit_iff_toNat.1 hdigit
      omega
  all_goals decide

/-- Percent-encoded bytes are written without plus signs. -/
theorem map_ofPlus_percentBytes (bytes : Bytes) :
    (encodeChars (bytes.flatMap percentByte)).map ofPlus =
      encodeChars (bytes.flatMap percentByte) := by
  have hother : ¬ IsPercentMark '+' := by decide
  have hplus : (0x2B : UInt8) ∉ encodeChars (bytes.flatMap percentByte) := by
    rw [Utf8.mem_encodeChars_ascii (by decide)]
    rintro ⟨c, hc, heq⟩
    obtain ⟨b, -, hmem⟩ := List.mem_flatMap.1 hc
    have hc : c = '+' := Char.toNat_inj.1 heq
    exact hother (hc ▸ isPercentMark_of_mem_percentByte hmem)
  have hkept : ∀ b ∈ encodeChars (bytes.flatMap percentByte), ofPlus b = id b :=
    fun b hb => if_neg (ne_of_mem_of_not_mem hb hplus)
  rw [List.map_congr_left hkept, List.map_id]

/-- A character is read back from its form, whatever follows. -/
theorem percentDecode_formChar (c : Char) (rest : Bytes) :
    percentDecode ((encodeChars (formChar c)).map ofPlus ++ rest) =
      utf8EncodeChar c ++ percentDecode rest := by
  -- The plus signs of the form are spaces; those of the text have been percent-encoded.
  rw [formChar]
  split
  case isTrue hfree =>
    obtain ⟨hascii, hplus, hpercent⟩ := toNat_of_isFormUnreserved hfree
    have hcode : (UInt8.ofNat c.toNat).toNat = c.toNat := Utf8.toNat_ofNat (by omega)
    have hkept : ofPlus (UInt8.ofNat c.toNat) = UInt8.ofNat c.toNat :=
      if_neg fun h => hplus (by rw [← hcode, h]; rfl)
    have hmark : UInt8.ofNat c.toNat ≠ 0x25 := fun h => hpercent (by rw [← hcode, h]; rfl)
    rw [Utf8.encodeChars_cons, Utf8.encodeChars_nil, List.append_nil,
      Utf8.utf8EncodeChar_ascii hascii, List.map_singleton, hkept, List.singleton_append,
      percentDecode_cons hmark, List.singleton_append]
  case isFalse =>
    split
    case isTrue hspace =>
      rw [eq_of_beq hspace]
      exact percentDecode_cons (by decide) rest
    case isFalse =>
      rw [percentChar, map_ofPlus_percentBytes]
      exact percentDecode_percentBytes _ rest

theorem percentDecode_formChars (text : List Char) :
    percentDecode ((encodeChars (text.flatMap formChar)).map ofPlus) = encodeChars text := by
  induction text with
  | nil => rfl
  | cons c text ih =>
    rw [List.flatMap_cons, Utf8.encodeChars_append, List.map_append, percentDecode_formChar, ih,
      Utf8.encodeChars_cons]

/-- An encoded text is decoded to itself. -/
theorem formText_formEncode (text : String) : formText (encodeChars (formEncode text)) = text := by
  rw [formText, formEncode, percentDecode_formChars]
  exact Utf8.decodeLossy_encode text

/-- What encoded texts are written with. -/
theorem mem_formEncode {c : Char} {text : String} (h : c ∈ formEncode text) :
    isFormUnreserved c = true ∨ c = '+' ∨ IsPercentMark c := by
  obtain ⟨d, -, hmem⟩ := List.mem_flatMap.1 h
  rw [formChar] at hmem
  split at hmem
  case isTrue hfree => exact .inl (List.mem_singleton.1 hmem ▸ hfree)
  case isFalse =>
    split at hmem
    case isTrue => exact .inr (.inl (List.mem_singleton.1 hmem))
    case isFalse => exact .inr (.inr (isPercentMark_of_mem_percentChar hmem))

/-- A character that parts a form, or the one that ends a query. -/
def IsFormMark (c : Char) : Prop := c = '&' ∨ c = '=' ∨ c = '#'

/-- No mark of a form is written in an encoded text. -/
theorem not_mem_formEncode {mark : Char} (hmark : IsFormMark mark) (text : String) :
    mark ∉ formEncode text := by
  have hother : ¬ (isFormUnreserved mark = true ∨ mark = '+' ∨ IsPercentMark mark) := by
    rcases hmark with rfl | rfl | rfl <;> decide
  exact fun h => hother (mem_formEncode h)

theorem byte_not_mem_formEncode {b : UInt8} {mark : Char} (hmark : IsFormMark mark)
    (hb : b.toNat < 0x80) (hbyte : mark.toNat = b.toNat) (text : String) :
    b ∉ encodeChars (formEncode text) := by
  rw [Utf8.mem_encodeChars_ascii hb]
  rintro ⟨c, hc, heq⟩
  exact not_mem_formEncode hmark text (Char.toNat_inj.1 (heq.trans hbyte.symm) ▸ hc)

theorem ampersand_not_mem_formEncode (text : String) :
    (0x26 : UInt8) ∉ encodeChars (formEncode text) :=
  byte_not_mem_formEncode (.inl rfl) (by decide) rfl text

theorem equals_not_mem_formEncode (text : String) :
    (0x3D : UInt8) ∉ encodeChars (formEncode text) :=
  byte_not_mem_formEncode (.inr (.inl rfl)) (by decide) rfl text

/-! ## Pairs -/

theorem encodeChars_formPair (pair : String × String) :
    encodeChars (formPair pair) =
      encodeChars (formEncode pair.1) ++ 0x3D :: encodeChars (formEncode pair.2) := by
  rw [formPair, Utf8.encodeChars_append, Utf8.encodeChars_cons]
  rfl

/-- An encoded pair is read as that pair. -/
theorem formMember_formPair (pair : String × String) :
    formMember (encodeChars (formPair pair)) = pair := by
  have hname : ∀ b ∈ encodeChars (formEncode pair.1), (b != 0x3D) = true := fun b hb =>
    bne_iff_ne.2 (ne_of_mem_of_not_mem hb (equals_not_mem_formEncode pair.1))
  rw [formMember, encodeChars_formPair, List.takeWhile_append_of_pos hname,
    List.dropWhile_append_of_pos hname]
  simp [formText_formEncode]

/-- An encoded pair is one piece of a form. -/
theorem formMembers_formPair (pair : String × String) :
    formMembers (encodeChars (formPair pair)) = [pair] := by
  have hmark : (0x26 : UInt8) ∉ encodeChars (formPair pair) := by
    rw [encodeChars_formPair, List.mem_append, List.mem_cons]
    rintro (h | h | h)
    · exact ampersand_not_mem_formEncode pair.1 h
    · cases h
    · exact ampersand_not_mem_formEncode pair.2 h
  have hpiece : encodeChars (formPair pair) ≠ [] := by
    rw [encodeChars_formPair]
    exact List.append_ne_nil_of_right_ne_nil _ (List.cons_ne_nil _ _)
  rw [formMembers, List.splitOn_eq_singleton hmark, List.filter_cons_of_pos (by simpa using hpiece),
    List.filter_nil, List.map_singleton, formMember_formPair]

/-- What stands before and after an ampersand is read apart. -/
theorem formMembers_append (front back : Bytes) :
    formMembers (front ++ 0x26 :: back) = formMembers front ++ formMembers back := by
  rw [formMembers, List.splitOn_append_cons_self, List.filter_append, List.map_append]
  rfl

theorem queryMembers_appendPair (query : List Char) (pair : String × String) :
    queryMembers (some (appendPair query pair)) = queryMembers (some query) ++ [pair] := by
  have hmark : utf8EncodeChar '&' = [0x26] := by decide
  rw [appendPair]
  split
  case isTrue hempty =>
    rw [List.isEmpty_iff.1 hempty]
    exact formMembers_formPair pair
  case isFalse =>
    rw [queryMembers, Option.getD_some, Utf8.encodeChars_append, Utf8.encodeChars_cons, hmark,
      List.singleton_append, formMembers_append, formMembers_formPair]
    rfl

/-- Appended pairs are read after those of the query. -/
theorem queryMembers_appendPairs (query : List Char) (pairs : List (String × String)) :
    queryMembers (some (appendPairs query pairs)) = queryMembers (some query) ++ pairs := by
  induction pairs generalizing query with
  | nil => exact (List.append_nil _).symm
  | cons pair pairs ih =>
    calc queryMembers (some (appendPairs query (pair :: pairs)))
        = queryMembers (some (appendPairs (appendPair query pair) pairs)) := rfl
      _ = queryMembers (some query) ++ [pair] ++ pairs := by rw [ih, queryMembers_appendPair]
      _ = queryMembers (some query) ++ pair :: pairs := by rw [List.append_assoc]; rfl

/-- Appended pairs do not end the query. -/
theorem hash_not_mem_appendPairs {query : List Char} (h : '#' ∉ query)
    (pairs : List (String × String)) : '#' ∉ appendPairs query pairs := by
  have hpair (pair : String × String) : '#' ∉ formPair pair := by
    rw [formPair, List.mem_append, List.mem_cons]
    rintro (hname | heq | hvalue)
    · exact not_mem_formEncode (.inr (.inr rfl)) pair.1 hname
    · cases heq
    · exact not_mem_formEncode (.inr (.inr rfl)) pair.2 hvalue
  induction pairs generalizing query with
  | nil => exact h
  | cons pair pairs ih =>
    refine ih ?_
    rw [appendPair]
    split
    case isTrue => exact hpair pair
    case isFalse => simp [h, hpair pair]

end RecordFlow.Url
