import RecordFlow.Json.Literal
import RecordFlow.Text.Hexadecimal
import RecordFlow.Text.Utf8

/-!
# JSON tokens

JSON text is read as bytes.  Cutting it into tokens decides only where each token
ends; whether a string is proper Unicode and whether a number is in range are
questions about a token, asked when its value is needed.  Anything that starts no
token ends the sequence with `broken`.
-/

namespace RecordFlow.Json

/-- A piece of a string: a byte as it stands, or an escaped UTF-16 code unit. -/
inductive Piece where
  | raw (b : UInt8)
  | escaped (unit : Nat)
  deriving DecidableEq, Repr

inductive Token where
  | openBrace
  | closeBrace
  | openBracket
  | closeBracket
  | comma
  | colon
  | null
  | bool (b : Bool)
  | number (literal : Literal)
  | text (pieces : List Piece)
  | broken
  deriving DecidableEq, Repr

/-- Space, line feed, carriage return and tab stand between tokens. -/
def isLayout (b : UInt8) : Bool :=
  b == 0x20 || b == 0x0A || b == 0x0D || b == 0x09

def digitByte? (b : UInt8) : Option Nat :=
  if 0x30 ≤ b && b ≤ 0x39 then some (b.toNat - 0x30) else none

def hexByte? (b : UInt8) : Option Nat :=
  Text.hexDigit? (Char.ofNat b.toNat)

/-- The code unit of a one-letter escape. -/
def shortEscape? (b : UInt8) : Option Nat :=
  if b == 0x22 then some 0x22
  else if b == 0x5C then some 0x5C
  else if b == 0x2F then some 0x2F
  else if b == 0x62 then some 0x08
  else if b == 0x66 then some 0x0C
  else if b == 0x6E then some 0x0A
  else if b == 0x72 then some 0x0D
  else if b == 0x74 then some 0x09
  else none

def consPiece (piece : Piece) :
    Option (List Piece × Bytes) → Option (List Piece × Bytes)
  | some (pieces, rest) => some (piece :: pieces, rest)
  | none => none

/-- Scan a string after its opening quote; absent when it never closes, holds a raw
control, or holds an unknown escape. -/
def scanText : Bytes → Option (List Piece × Bytes)
  | [] => none
  | b :: rest =>
    if b == 0x22 then some ([], rest)
    else if b == 0x5C then
      match rest with
      | [] => none
      | e :: rest =>
        if e == 0x75 then
          match rest with
          | h1 :: h2 :: h3 :: h4 :: rest =>
            match hexByte? h1, hexByte? h2, hexByte? h3, hexByte? h4 with
            | some d1, some d2, some d3, some d4 =>
              consPiece (.escaped (((d1 * 16 + d2) * 16 + d3) * 16 + d4)) (scanText rest)
            | _, _, _, _ => none
          | _ => none
        else
          match shortEscape? e with
          | some unit => consPiece (.escaped unit) (scanText rest)
          | none => none
    else if b < 0x20 then none
    else consPiece (.raw b) (scanText rest)

def scanDigits : Bytes → List Nat × Bytes
  | [] => ([], [])
  | b :: rest =>
    match digitByte? b with
    | some d =>
      let (digits, rest) := scanDigits rest
      (d :: digits, rest)
    | none => ([], b :: rest)

/-- Integer digits: a lone zero, or digits that do not start with zero. -/
def scanWhole (bytes : Bytes) : Option (List Nat × Bytes) :=
  match scanDigits bytes with
  | ([], _) => none
  | (0 :: _ :: _, _) => none
  | found => some found

/-- A fraction, if a point follows; at least one digit belongs to it. -/
def scanFraction : Bytes → Option (Option (List Nat) × Bytes)
  | [] => some (none, [])
  | b :: rest =>
    if b == 0x2E then
      match scanDigits rest with
      | ([], _) => none
      | (digits, rest) => some (some digits, rest)
    else some (none, b :: rest)

/-- The sign of an exponent; plus when none is written. -/
def scanExponentSign : Bytes → Bool × Bytes
  | [] => (false, [])
  | b :: rest =>
    if b == 0x2D then (true, rest)
    else if b == 0x2B then (false, rest)
    else (false, b :: rest)

/-- An exponent, if its letter follows; at least one digit belongs to it. -/
def scanExponent : Bytes → Option (Option (Bool × List Nat) × Bytes)
  | [] => some (none, [])
  | b :: rest =>
    if b == 0x65 || b == 0x45 then
      let (below, rest) := scanExponentSign rest
      match scanDigits rest with
      | ([], _) => none
      | (digits, rest) => some (some (below, digits), rest)
    else some (none, b :: rest)

def scanUnsigned (negative : Bool) (bytes : Bytes) : Option (Literal × Bytes) :=
  match scanWhole bytes with
  | none => none
  | some (whole, rest) =>
    match scanFraction rest with
    | none => none
    | some (fraction, rest) =>
      match scanExponent rest with
      | none => none
      | some (exponent, rest) => some (⟨negative, whole, fraction, exponent⟩, rest)

def dropWord? : Bytes → Bytes → Option Bytes
  | [], rest => some rest
  | _ :: _, [] => none
  | w :: word, b :: rest => if b == w then dropWord? word rest else none

def mark? (b : UInt8) : Option Token :=
  if b == 0x7B then some .openBrace
  else if b == 0x7D then some .closeBrace
  else if b == 0x5B then some .openBracket
  else if b == 0x5D then some .closeBracket
  else if b == 0x2C then some .comma
  else if b == 0x3A then some .colon
  else none

/-- Keywords by their first byte, with the bytes that must follow. -/
def keyword? (b : UInt8) : Option (Token × Bytes) :=
  if b == 0x6E then some (.null, [0x75, 0x6C, 0x6C])
  else if b == 0x74 then some (.bool true, [0x72, 0x75, 0x65])
  else if b == 0x66 then some (.bool false, [0x61, 0x6C, 0x73, 0x65])
  else none

/-- A number token; a minus sign may stand before the digits. -/
def scanNumber (b : UInt8) (rest : Bytes) : Option (Token × Bytes) :=
  let found := if b == 0x2D then scanUnsigned true rest else scanUnsigned false (b :: rest)
  found.map fun found => (.number found.1, found.2)

/-- The token that starts with byte `b`, and what follows it. -/
def scanToken (b : UInt8) (rest : Bytes) : Option (Token × Bytes) :=
  match mark? b with
  | some token => some (token, rest)
  | none =>
    if b == 0x22 then (scanText rest).map fun found => (.text found.1, found.2)
    else
      match keyword? b with
      | some (token, word) => (dropWord? word rest).map fun rest => (token, rest)
      | none => scanNumber b rest

theorem rest_of_consPiece {piece : Piece} {found : Option (List Piece × Bytes)}
    {pieces : List Piece} {rest : Bytes}
    (h : consPiece piece found = some (pieces, rest)) :
    ∃ more, found = some (more, rest) := by
  rcases found with _ | ⟨more, tail⟩
  · simp [consPiece] at h
  · simp only [consPiece, Option.some.injEq, Prod.mk.injEq] at h
    exact ⟨more, by rw [h.2]⟩

theorem scanText_shorter {bytes : Bytes} {pieces : List Piece} {rest : Bytes}
    (h : scanText bytes = some (pieces, rest)) : rest.length < bytes.length := by
  fun_induction scanText bytes generalizing pieces rest with
  | case1 => simp at h
  | case2 => simp_all
  | case3 => simp at h
  | case4 =>
    rename_i ih
    obtain ⟨more, hm⟩ := rest_of_consPiece h
    have := ih hm
    simp only [List.length_cons]
    omega
  | case5 => simp at h
  | case6 => simp at h
  | case7 =>
    rename_i ih
    obtain ⟨more, hm⟩ := rest_of_consPiece h
    have := ih hm
    simp only [List.length_cons]
    omega
  | case8 => simp at h
  | case9 => simp at h
  | case10 =>
    rename_i ih
    obtain ⟨more, hm⟩ := rest_of_consPiece h
    have := ih hm
    simp only [List.length_cons]
    omega

theorem scanDigits_le (bytes : Bytes) : (scanDigits bytes).2.length ≤ bytes.length := by
  induction bytes with
  | nil => exact Nat.le_refl _
  | cons b rest ih =>
    rw [scanDigits]
    split
    · exact Nat.le_succ_of_le ih
    · exact Nat.le_refl _

theorem scanWhole_shorter {bytes rest : Bytes} {digits : List Nat}
    (h : scanWhole bytes = some (digits, rest)) : rest.length < bytes.length := by
  cases bytes with
  | nil => simp [scanWhole, scanDigits] at h
  | cons b more =>
    have hle := scanDigits_le more
    rw [scanWhole, scanDigits] at h
    split at h
    · simp at h
    · simp at h
    · rename_i hne _
      cases hb : digitByte? b with
      | none => simp [hb] at hne
      | some d =>
        simp only [hb, Option.some.injEq, Prod.mk.injEq] at h
        simp only [List.length_cons]
        have := h.2 ▸ hle
        omega

theorem scanFraction_le {bytes rest : Bytes} {fraction : Option (List Nat)}
    (h : scanFraction bytes = some (fraction, rest)) : rest.length ≤ bytes.length := by
  cases bytes with
  | nil => simp_all [scanFraction]
  | cons b more =>
    have hle := scanDigits_le more
    rw [scanFraction] at h
    split at h
    · split at h
      · simp at h
      · rename_i digits tail _ hd
        simp only [hd, Option.some.injEq, Prod.mk.injEq] at h hle
        simp only [List.length_cons, ← h.2]
        omega
    · simp only [Option.some.injEq, Prod.mk.injEq] at h
      simp [← h.2]

theorem scanExponentSign_le (bytes : Bytes) :
    (scanExponentSign bytes).2.length ≤ bytes.length := by
  cases bytes with
  | nil => simp [scanExponentSign]
  | cons b more =>
    rw [scanExponentSign]
    split
    · simp
    · split <;> simp

theorem scanExponent_le {bytes rest : Bytes} {exponent : Option (Bool × List Nat)}
    (h : scanExponent bytes = some (exponent, rest)) : rest.length ≤ bytes.length := by
  cases bytes with
  | nil => simp_all [scanExponent]
  | cons b more =>
    rw [scanExponent] at h
    split at h
    · have hsign := scanExponentSign_le more
      have hle := scanDigits_le (scanExponentSign more).2
      simp only at h
      split at h
      · simp at h
      · rename_i digits tail _ hd
        simp only [hd, Option.some.injEq, Prod.mk.injEq] at h hle
        simp only [List.length_cons, ← h.2]
        omega
    · simp only [Option.some.injEq, Prod.mk.injEq] at h
      simp [← h.2]

theorem scanUnsigned_shorter {negative : Bool} {bytes rest : Bytes} {literal : Literal}
    (h : scanUnsigned negative bytes = some (literal, rest)) :
    rest.length < bytes.length := by
  rw [scanUnsigned] at h
  split at h
  · simp at h
  · rename_i hwhole
    have h1 := scanWhole_shorter hwhole
    split at h
    · simp at h
    · rename_i hfraction
      have h2 := scanFraction_le hfraction
      split at h
      · simp at h
      · rename_i hexponent
        have h3 := scanExponent_le hexponent
        simp only [Option.some.injEq, Prod.mk.injEq] at h
        rw [← h.2]
        omega

theorem dropWord?_le {word bytes rest : Bytes} (h : dropWord? word bytes = some rest) :
    rest.length ≤ bytes.length := by
  fun_induction dropWord? word bytes with
  | case1 => simp_all
  | case2 => simp at h
  | case3 _ _ _ _ _ ih =>
    have := ih h
    simp only [List.length_cons]
    omega
  | case4 => simp at h

theorem scanNumber_le {b : UInt8} {bytes rest : Bytes} {token : Token}
    (h : scanNumber b bytes = some (token, rest)) : rest.length ≤ bytes.length := by
  obtain ⟨found, hf, heq⟩ := Option.map_eq_some_iff.1 h
  obtain ⟨literal, tail⟩ := found
  simp only [Prod.mk.injEq] at heq
  obtain ⟨-, rfl⟩ := heq
  split at hf
  · exact Nat.le_of_lt (scanUnsigned_shorter hf)
  · exact Nat.le_of_lt_succ (scanUnsigned_shorter hf)

/-- A token uses up at least its first byte. -/
theorem scanToken_le {b : UInt8} {bytes rest : Bytes} {token : Token}
    (h : scanToken b bytes = some (token, rest)) : rest.length ≤ bytes.length := by
  rw [scanToken] at h
  split at h
  · simp only [Option.some.injEq, Prod.mk.injEq] at h
    simp [h.2]
  · split at h
    · obtain ⟨⟨pieces, tail⟩, hf, heq⟩ := Option.map_eq_some_iff.1 h
      simp only [Prod.mk.injEq] at heq
      exact heq.2 ▸ Nat.le_of_lt (scanText_shorter hf)
    · split at h
      · obtain ⟨tail, hf, heq⟩ := Option.map_eq_some_iff.1 h
        simp only [Prod.mk.injEq] at heq
        exact heq.2 ▸ dropWord?_le hf
      · exact scanNumber_le h

/-- Cut bytes into tokens.  The sequence ends with `broken` where no token starts. -/
def tokens : Bytes → List Token
  | [] => []
  | b :: rest =>
    if isLayout b then tokens rest
    else
      match _h : scanToken b rest with
      | some (token, rest') => token :: tokens rest'
      | none => [.broken]
termination_by bytes => bytes.length
decreasing_by
  · simp
  · have := scanToken_le _h
    simp only [List.length_cons]
    omega

end RecordFlow.Json
