import RecordFlow.Proofs.Json.Printed
import RecordFlow.Text.LineBreaks

/-!
# Line breaks between tokens

A line break inside a token is not JSON: strings hold no raw controls, and keywords and
numbers end before it.  So the line breaks of a JSON text stand between its tokens, and
the text keeps its tokens when they are replaced by spaces.  The same holds when
something follows the text that does not continue a number.
-/

namespace RecordFlow.Json

open Utf8 (encodeChars)

/-- The second text is the first one with a space for each line break, and with `tail`
behind it.  A CR LF pair may count as one line break. -/
inductive Respaced (tail : Bytes) : Bytes → Bytes → Prop
  | done : Respaced tail [] tail
  | pair {x y : Bytes} (h : Respaced tail x y) : Respaced tail (0x0D :: 0x0A :: x) (0x20 :: y)
  | lineFeed {x y : Bytes} (h : Respaced tail x y) : Respaced tail (0x0A :: x) (0x20 :: y)
  | carriageReturn {x y : Bytes} (h : Respaced tail x y) : Respaced tail (0x0D :: x) (0x20 :: y)
  | keep {b : UInt8} {x y : Bytes} (hfeed : b ≠ 0x0A) (hreturn : b ≠ 0x0D)
    (h : Respaced tail x y) : Respaced tail (b :: x) (b :: y)

variable {tail x y rest : Bytes}

/-! ## Flattened texts -/

theorem Respaced.keepAll {bytes : Bytes} (hfeed : 0x0A ∉ bytes) (hreturn : 0x0D ∉ bytes)
    (h : Respaced tail x y) : Respaced tail (bytes ++ x) (bytes ++ y) := by
  induction bytes with
  | nil => exact h
  | cons b bytes ih =>
    rw [List.mem_cons, not_or] at hfeed hreturn
    exact .keep (Ne.symm hfeed.1) (Ne.symm hreturn.1) (ih hfeed.2 hreturn.2)

theorem respaced_of_not_break {c : Char} (hfeed : c ≠ '\n') (hreturn : c ≠ '\r')
    (h : Respaced tail x y) :
    Respaced tail (String.utf8EncodeChar c ++ x) (String.utf8EncodeChar c ++ y) := by
  refine h.keepAll ?_ ?_
  · rw [Utf8.mem_utf8EncodeChar_ascii (by decide)]
    exact fun heq => hfeed (Char.toNat_inj.1 heq)
  · rw [Utf8.mem_utf8EncodeChar_ascii (by decide)]
    exact fun heq => hreturn (Char.toNat_inj.1 heq)

/-- Flattening a text puts spaces for its line breaks. -/
theorem respaced_flattenChars (text : List Char) (tail : Bytes) :
    Respaced tail (encodeChars text) (encodeChars (Text.flattenChars text) ++ tail) := by
  rw [Text.flattenChars]
  fun_induction Text.joinBreakPairs text with
  | case1 rest ih => exact .pair ih
  | case2 c rest hpair ih =>
    rw [List.map_cons, Utf8.encodeChars_cons, Utf8.encodeChars_cons, List.append_assoc,
      Text.blankBreak]
    by_cases hfeed : c = '\n'
    · subst hfeed
      exact .lineFeed ih
    by_cases hreturn : c = '\r'
    · subst hreturn
      exact .carriageReturn ih
    have hkeep : (c == '\n' || c == '\r') = false := by simp [hfeed, hreturn]
    rw [hkeep, if_neg Bool.false_ne_true]
    exact respaced_of_not_break hfeed hreturn ih
  | case3 => exact .done

/-! ## Scanning -/

/-- A byte that is no line break is kept. -/
theorem Respaced.of_cons {b : UInt8} (h : Respaced tail (b :: x) y) (hfeed : b ≠ 0x0A)
    (hreturn : b ≠ 0x0D) : ∃ z, y = b :: z ∧ Respaced tail x z := by
  cases h with
  | pair => exact absurd rfl hreturn
  | lineFeed => exact absurd rfl hfeed
  | carriageReturn => exact absurd rfl hreturn
  | keep _ _ h => exact ⟨_, rfl, h⟩

theorem Respaced.of_append (bytes : Bytes) (h : Respaced tail (bytes ++ x) y)
    (hfeed : 0x0A ∉ bytes) (hreturn : 0x0D ∉ bytes) :
    ∃ z, y = bytes ++ z ∧ Respaced tail x z := by
  induction bytes generalizing y with
  | nil => exact ⟨y, rfl, h⟩
  | cons b bytes ih =>
    rw [List.mem_cons, not_or] at hfeed hreturn
    obtain ⟨z, rfl, hz⟩ := h.of_cons (Ne.symm hfeed.1) (Ne.symm hreturn.1)
    obtain ⟨w, rfl, hw⟩ := ih hz hfeed.2 hreturn.2
    exact ⟨w, rfl, hw⟩

theorem consPiece_eq_some {piece : Piece} {found : Option (List Piece × Bytes)}
    {pieces : List Piece} :
    consPiece piece found = some (pieces, rest) ↔
      ∃ more, found = some (more, rest) ∧ pieces = piece :: more := by
  rcases found with _ | ⟨more, tail⟩
  · simp [consPiece]
  · simp only [consPiece, Option.some.injEq, Prod.mk.injEq]
    grind

theorem not_break_of_hexByte? {b : UInt8} {d : Nat} (h : hexByte? b = some d) :
    b ≠ 0x0A ∧ b ≠ 0x0D := by
  have hfeed : hexByte? 0x0A = none := by decide
  have hreturn : hexByte? 0x0D = none := by decide
  refine ⟨?_, ?_⟩
  · rintro rfl
    rw [hfeed] at h
    cases h
  · rintro rfl
    rw [hreturn] at h
    cases h

theorem not_break_of_shortEscape? {b : UInt8} {unit : Nat} (h : shortEscape? b = some unit) :
    b ≠ 0x0A ∧ b ≠ 0x0D := by
  refine ⟨?_, ?_⟩
  · rintro rfl
    cases h
  · rintro rfl
    cases h

/-- No line break stands inside a string. -/
theorem scanText_respaced {pieces : List Piece} (h : Respaced tail x y)
    (hscan : scanText x = some (pieces, rest)) :
    ∃ rest', scanText y = some (pieces, rest') ∧ Respaced tail rest rest' := by
  fun_induction scanText x generalizing y pieces rest with
  | case1 => cases hscan
  | case2 b x hquote =>
    cases hscan
    obtain rfl := eq_of_beq hquote
    obtain ⟨z, rfl, hz⟩ := h.of_cons (by decide) (by decide)
    exact ⟨z, by rw [scanText.eq_def]; rfl, hz⟩
  | case3 => cases hscan
  | case4 b _ hslash e he h1 h2 h3 h4 x d1 d2 d3 d4 hd4 hd3 hd2 hd1 ih =>
    obtain rfl := eq_of_beq hslash
    obtain rfl := eq_of_beq he
    obtain ⟨more, hmore, rfl⟩ := consPiece_eq_some.1 hscan
    have hb1 := not_break_of_hexByte? hd1
    have hb2 := not_break_of_hexByte? hd2
    have hb3 := not_break_of_hexByte? hd3
    have hb4 := not_break_of_hexByte? hd4
    obtain ⟨z, rfl, hz⟩ := Respaced.of_append [0x5C, 0x75, h1, h2, h3, h4] h
      (by simp [hb1.1.symm, hb2.1.symm, hb3.1.symm, hb4.1.symm])
      (by simp [hb1.2.symm, hb2.2.symm, hb3.2.symm, hb4.2.symm])
    obtain ⟨rest', hrest, hrespaced⟩ := ih hz hmore
    refine ⟨rest', ?_, hrespaced⟩
    rw [scanText.eq_def]
    simp [hd1, hd2, hd3, hd4, hrest, consPiece]
  | case5 => cases hscan
  | case6 => cases hscan
  | case7 b _ hslash e x he unit hunit ih =>
    obtain rfl := eq_of_beq hslash
    obtain ⟨more, hmore, rfl⟩ := consPiece_eq_some.1 hscan
    have hbreak := not_break_of_shortEscape? hunit
    obtain ⟨z, rfl, hz⟩ := Respaced.of_append [0x5C, e] h
      (by simp [hbreak.1.symm]) (by simp [hbreak.2.symm])
    obtain ⟨rest', hrest, hrespaced⟩ := ih hz hmore
    exact ⟨rest', scanText_short (by simpa using he) hunit hrest, hrespaced⟩
  | case8 => cases hscan
  | case9 => cases hscan
  | case10 b x hquote hslash hcontrol ih =>
    obtain ⟨more, hmore, rfl⟩ := consPiece_eq_some.1 hscan
    have hne (d : UInt8) (hd : d < 0x20) : b ≠ d := by
      rintro rfl
      exact hcontrol hd
    obtain ⟨z, rfl, hz⟩ := h.of_cons (hne 0x0A (by decide)) (hne 0x0D (by decide))
    obtain ⟨rest', hrest, hrespaced⟩ := ih hz hmore
    refine ⟨rest', ?_, hrespaced⟩
    have hraw : ∀ d ∈ [b], d ≠ 0x22 ∧ d ≠ 0x5C ∧ ¬ d < 0x20 := by
      intro d hd
      rw [List.mem_singleton.1 hd]
      exact ⟨by simpa using hquote, by simpa using hslash, hcontrol⟩
    exact scanText_raw hraw hrest

/-- Digits end at a line break as at a space, and where the text ends. -/
theorem scanDigits_respaced {digits : List Nat} (htail : ∀ b ∈ tail.head?, digitByte? b = none)
    (h : Respaced tail x y) (hscan : scanDigits x = (digits, rest)) :
    ∃ rest', scanDigits y = (digits, rest') ∧ Respaced tail rest rest' := by
  induction h generalizing digits rest with
  | done =>
    cases hscan
    exact ⟨tail, scanDigits_printed (List.forall_mem_nil _) htail, .done⟩
  | pair h =>
    cases hscan
    exact ⟨_, rfl, .pair h⟩
  | lineFeed h =>
    cases hscan
    exact ⟨_, rfl, .lineFeed h⟩
  | carriageReturn h =>
    cases hscan
    exact ⟨_, rfl, .carriageReturn h⟩
  | @keep b x y hfeed hreturn h ih =>
    rw [scanDigits] at hscan ⊢
    cases hb : digitByte? b with
    | none =>
      rw [hb] at hscan
      cases hscan
      exact ⟨b :: y, rfl, .keep hfeed hreturn h⟩
    | some d =>
      rw [hb] at hscan
      cases hscan
      obtain ⟨rest', hrest, hrespaced⟩ := ih rfl
      exact ⟨rest', by rw [hrest], hrespaced⟩

theorem scanWhole_eq_some {digits : List Nat} :
    scanWhole x = some (digits, rest) ↔
      scanDigits x = (digits, rest) ∧ digits ≠ [] ∧ ∀ d more, digits ≠ 0 :: d :: more := by
  rw [scanWhole]
  rcases scanDigits x with ⟨_ | ⟨_ | d, _ | ⟨e, more⟩⟩, after⟩
  all_goals simp
  all_goals grind

theorem scanWhole_respaced {digits : List Nat} (htail : ∀ b ∈ tail.head?, digitByte? b = none)
    (h : Respaced tail x y) (hscan : scanWhole x = some (digits, rest)) :
    ∃ rest', scanWhole y = some (digits, rest') ∧ Respaced tail rest rest' := by
  obtain ⟨hdigits, hproper⟩ := scanWhole_eq_some.1 hscan
  obtain ⟨rest', hrest, hrespaced⟩ := scanDigits_respaced htail h hdigits
  exact ⟨rest', scanWhole_eq_some.2 ⟨hrest, hproper⟩, hrespaced⟩

theorem scanFraction_respaced {fraction : Option (List Nat)} (htail : EndsNumber tail)
    (h : Respaced tail x y) (hscan : scanFraction x = some (fraction, rest)) :
    ∃ rest', scanFraction y = some (fraction, rest') ∧ Respaced tail rest rest' := by
  cases h with
  | done =>
    cases hscan
    exact ⟨tail, scanFraction_ends htail, .done⟩
  | pair h =>
    cases hscan
    exact ⟨_, rfl, .pair h⟩
  | lineFeed h =>
    cases hscan
    exact ⟨_, rfl, .lineFeed h⟩
  | carriageReturn h =>
    cases hscan
    exact ⟨_, rfl, .carriageReturn h⟩
  | @keep b x y hfeed hreturn h =>
    rw [scanFraction] at hscan ⊢
    by_cases hpoint : (b == 0x2E) = true
    · rw [if_pos hpoint] at hscan ⊢
      cases hdigits : scanDigits x with
      | mk found more =>
        obtain ⟨rest', hrest, hrespaced⟩ :=
          scanDigits_respaced (fun b hb => (htail b hb).1) h hdigits
        rw [hdigits] at hscan
        rw [hrest]
        cases found with
        | nil => cases hscan
        | cons d found =>
          cases hscan
          exact ⟨rest', rfl, hrespaced⟩
    · rw [if_neg hpoint] at hscan ⊢
      cases hscan
      exact ⟨b :: y, rfl, .keep hfeed hreturn h⟩

/-- After the letter of an exponent something follows, if only its digits. -/
theorem scanExponentSign_respaced (hne : x ≠ []) (h : Respaced tail x y) :
    (scanExponentSign y).1 = (scanExponentSign x).1 ∧
      Respaced tail (scanExponentSign x).2 (scanExponentSign y).2 := by
  cases h with
  | done => exact absurd rfl hne
  | pair h => exact ⟨rfl, .pair h⟩
  | lineFeed h => exact ⟨rfl, .lineFeed h⟩
  | carriageReturn h => exact ⟨rfl, .carriageReturn h⟩
  | keep hfeed hreturn h =>
    rw [scanExponentSign, scanExponentSign]
    split
    · exact ⟨rfl, h⟩
    · split
      · exact ⟨rfl, h⟩
      · exact ⟨rfl, .keep hfeed hreturn h⟩

theorem scanExponent_respaced {exponent : Option (Bool × List Nat)} (htail : EndsNumber tail)
    (h : Respaced tail x y) (hscan : scanExponent x = some (exponent, rest)) :
    ∃ rest', scanExponent y = some (exponent, rest') ∧ Respaced tail rest rest' := by
  cases h with
  | done =>
    cases hscan
    exact ⟨tail, scanExponent_ends htail, .done⟩
  | pair h =>
    cases hscan
    exact ⟨_, rfl, .pair h⟩
  | lineFeed h =>
    cases hscan
    exact ⟨_, rfl, .lineFeed h⟩
  | carriageReturn h =>
    cases hscan
    exact ⟨_, rfl, .carriageReturn h⟩
  | @keep b x y hfeed hreturn h =>
    rw [scanExponent] at hscan ⊢
    by_cases hletter : (b == 0x65 || b == 0x45) = true
    · rw [if_pos hletter] at hscan ⊢
      have hne : x ≠ [] := by
        rintro rfl
        cases hscan
      obtain ⟨hsign, hafter⟩ := scanExponentSign_respaced hne h
      cases hdigits : scanDigits (scanExponentSign x).2 with
      | mk found more =>
        obtain ⟨rest', hrest, hrespaced⟩ :=
          scanDigits_respaced (fun b hb => (htail b hb).1) hafter hdigits
        simp only [hdigits] at hscan
        simp only [hrest, hsign]
        cases found with
        | nil => cases hscan
        | cons d found =>
          cases hscan
          exact ⟨rest', rfl, hrespaced⟩
    · rw [if_neg hletter] at hscan ⊢
      cases hscan
      exact ⟨b :: y, rfl, .keep hfeed hreturn h⟩

theorem scanUnsigned_eq_some {negative : Bool} {literal : Literal} :
    scanUnsigned negative x = some (literal, rest) ↔
      ∃ whole fraction exponent after later, scanWhole x = some (whole, after) ∧
        scanFraction after = some (fraction, later) ∧
        scanExponent later = some (exponent, rest) ∧
        literal = ⟨negative, whole, fraction, exponent⟩ := by
  rw [scanUnsigned]
  constructor
  · intro h
    split at h
    · cases h
    rename_i hwhole
    split at h
    · cases h
    rename_i hfraction
    split at h
    · cases h
    rename_i hexponent
    cases h
    exact ⟨_, _, _, _, _, hwhole, hfraction, hexponent, rfl⟩
  · rintro ⟨whole, fraction, exponent, after, later, hwhole, hfraction, hexponent, rfl⟩
    simp only [hwhole, hfraction, hexponent]

/-- No line break stands inside a number. -/
theorem scanUnsigned_respaced {negative : Bool} {literal : Literal} (htail : EndsNumber tail)
    (h : Respaced tail x y) (hscan : scanUnsigned negative x = some (literal, rest)) :
    ∃ rest', scanUnsigned negative y = some (literal, rest') ∧ Respaced tail rest rest' := by
  obtain ⟨whole, fraction, exponent, after, later, hwhole, hfraction, hexponent, rfl⟩ :=
    scanUnsigned_eq_some.1 hscan
  obtain ⟨after', hwhole', h'⟩ := scanWhole_respaced (fun b hb => (htail b hb).1) h hwhole
  obtain ⟨later', hfraction', h''⟩ := scanFraction_respaced htail h' hfraction
  obtain ⟨rest', hexponent', hrespaced⟩ := scanExponent_respaced htail h'' hexponent
  exact ⟨rest', scanUnsigned_eq_some.2 ⟨whole, fraction, exponent, after', later', hwhole',
    hfraction', hexponent', rfl⟩, hrespaced⟩

theorem scanNumber_respaced {b : UInt8} {token : Token} (htail : EndsNumber tail)
    (hfeed : b ≠ 0x0A) (hreturn : b ≠ 0x0D) (h : Respaced tail x y)
    (hscan : scanNumber b x = some (token, rest)) :
    ∃ rest', scanNumber b y = some (token, rest') ∧ Respaced tail rest rest' := by
  obtain ⟨⟨literal, more⟩, hfound, heq⟩ := Option.map_eq_some_iff.1 hscan
  cases heq
  rw [scanNumber]
  by_cases hminus : (b == 0x2D) = true
  · rw [if_pos hminus] at hfound ⊢
    obtain ⟨rest', hrest, hrespaced⟩ := scanUnsigned_respaced htail h hfound
    exact ⟨rest', by rw [hrest]; rfl, hrespaced⟩
  · rw [if_neg hminus] at hfound ⊢
    obtain ⟨rest', hrest, hrespaced⟩ :=
      scanUnsigned_respaced htail (.keep hfeed hreturn h) hfound
    exact ⟨rest', by rw [hrest]; rfl, hrespaced⟩

/-! ## Tokens -/

theorem dropWord?_eq_some {word : Bytes} : dropWord? word x = some rest ↔ x = word ++ rest := by
  fun_induction dropWord? word x with
  | case1 x => simp [eq_comm]
  | case2 => simp
  | case3 w word b x hb ih => simp_all
  | case4 w word b x hb => simp_all

theorem not_break_of_keyword? {b : UInt8} {token : Token} {word : Bytes}
    (h : keyword? b = some (token, word)) : 0x0A ∉ word ∧ 0x0D ∉ word := by
  rw [keyword?] at h
  split_ifs at h
  all_goals
    cases h
    decide

/-- The token at the front is the same, and behind it the texts still differ by line breaks
alone. -/
theorem scanToken_respaced {b : UInt8} {token : Token} (htail : EndsNumber tail)
    (hfeed : b ≠ 0x0A) (hreturn : b ≠ 0x0D) (h : Respaced tail x y)
    (hscan : scanToken b x = some (token, rest)) :
    ∃ rest', scanToken b y = some (token, rest') ∧ Respaced tail rest rest' := by
  rw [scanToken] at hscan ⊢
  cases hmark : mark? b with
  | some mark =>
    rw [hmark] at hscan
    cases hscan
    exact ⟨y, rfl, h⟩
  | none =>
    simp only [hmark] at hscan ⊢
    by_cases hquote : (b == 0x22) = true
    · rw [if_pos hquote] at hscan ⊢
      obtain ⟨⟨pieces, more⟩, hfound, heq⟩ := Option.map_eq_some_iff.1 hscan
      cases heq
      obtain ⟨rest', hrest, hrespaced⟩ := scanText_respaced h hfound
      exact ⟨rest', by rw [hrest]; rfl, hrespaced⟩
    · rw [if_neg hquote] at hscan ⊢
      cases hkeyword : keyword? b with
      | none =>
        rw [hkeyword] at hscan
        exact scanNumber_respaced htail hfeed hreturn h hscan
      | some keyword =>
        obtain ⟨found, word⟩ := keyword
        rw [hkeyword] at hscan
        obtain ⟨more, hword, heq⟩ := Option.map_eq_some_iff.1 hscan
        cases heq
        obtain ⟨hnofeed, hnoreturn⟩ := not_break_of_keyword? hkeyword
        rw [dropWord?_eq_some.1 hword] at h
        obtain ⟨z, rfl, hz⟩ := h.of_append word hnofeed hnoreturn
        exact ⟨z, congrArg (Option.map _) (dropWord?_eq_some.2 rfl), hz⟩

theorem tokens_of_isLayout {b : UInt8} (h : isLayout b = true) (bytes : Bytes) :
    tokens (b :: bytes) = tokens bytes := by
  rw [tokens, if_pos h]

/-- A text that is cut into tokens to its end has the same tokens with spaces for its line
breaks, and then come those of what follows. -/
theorem tokens_respaced (htail : EndsNumber tail) (h : Respaced tail x y)
    (hwhole : .broken ∉ tokens x) : tokens y = tokens x ++ tokens tail := by
  fun_induction tokens x generalizing y with
  | case1 =>
    cases h
    rfl
  | case2 b x hlayout ih =>
    cases h with
    | pair h =>
      -- The line feed of the pair is still to come, and may stand for the same space.
      exact ih (.lineFeed h) hwhole
    | lineFeed h =>
      rw [tokens_of_isLayout rfl]
      exact ih h hwhole
    | carriageReturn h =>
      rw [tokens_of_isLayout rfl]
      exact ih h hwhole
    | keep hfeed hreturn h =>
      rw [tokens_of_isLayout hlayout]
      exact ih h hwhole
  | case3 b x hlayout token rest hscan ih =>
    have hne (d : UInt8) (hd : isLayout d = true) : b ≠ d := by
      rintro rfl
      exact hlayout hd
    have hfeed : b ≠ 0x0A := hne _ rfl
    have hreturn : b ≠ 0x0D := hne _ rfl
    obtain ⟨z, rfl, hz⟩ := h.of_cons hfeed hreturn
    obtain ⟨rest', hrest, hrespaced⟩ := scanToken_respaced htail hfeed hreturn hz hscan
    rw [List.mem_cons, not_or] at hwhole
    rw [tokens_of_scanToken (Bool.eq_false_iff.2 hlayout) hrest, ih hrespaced hwhole.2,
      List.cons_append]
  | case4 => exact absurd List.mem_cons_self hwhole

end RecordFlow.Json
