import RecordFlow.Decimal.Integer

/-!
# What decimal texts denote

Reading a text as a 64-bit integer succeeds exactly when the text is an optional sign
and at least one ASCII digit, and the integer that it denotes fits.  The text that is
written for an integer denotes it.
-/

namespace RecordFlow.Decimal

/-- ASCII digits, at least one of them, denote a natural number. -/
def DenotesNat (digits : List Char) (n : Nat) : Prop :=
  digits ≠ [] ∧ (∀ c ∈ digits, c.isDigit = true) ∧ Nat.ofDigitChars 10 digits 0 = n

/-- An optional sign and digits denote an integer. -/
inductive Denotes : List Char → Int → Prop
  | plain {digits : List Char} {n : Nat} (h : DenotesNat digits n) : Denotes digits n
  | plus {digits : List Char} {n : Nat} (h : DenotesNat digits n) : Denotes ('+' :: digits) n
  | minus {digits : List Char} {n : Nat} (h : DenotesNat digits n) : Denotes ('-' :: digits) (-n)

theorem digit?_eq_some {c : Char} {d : Nat} :
    digit? c = some d ↔ c.isDigit = true ∧ c.toNat - '0'.toNat = d := by
  have hrange : (decide ('0' ≤ c) && decide (c ≤ '9')) = c.isDigit := rfl
  rw [digit?, hrange]
  by_cases hdigit : c.isDigit = true
  · rw [if_pos hdigit, Option.some.injEq, and_iff_right hdigit]
  · rw [if_neg hdigit]
    exact ⟨fun h => absurd h (by simp), fun h => absurd h.1 hdigit⟩

theorem readDigits_eq_some {acc n : Nat} {text : List Char} :
    readDigits acc text = some n ↔
      (∀ c ∈ text, c.isDigit = true) ∧ Nat.ofDigitChars 10 text acc = n := by
  induction text generalizing acc with
  | nil => simp [readDigits]
  | cons c text ih =>
    rw [readDigits, Nat.ofDigitChars_cons, Nat.mul_comm 10 acc, List.forall_mem_cons]
    cases hdigit : digit? c with
    | none =>
      have hnot : ¬ c.isDigit = true := fun h => by
        rw [digit?_eq_some.2 ⟨h, rfl⟩] at hdigit
        cases hdigit
      simp [hnot]
    | some d =>
      obtain ⟨hc, rfl⟩ := digit?_eq_some.1 hdigit
      simp only [ih, hc, true_and]

theorem readNat?_eq_some {text : List Char} {n : Nat} :
    readNat? text = some n ↔ DenotesNat text n := by
  cases text with
  | nil => simp [readNat?, DenotesNat]
  | cons c text =>
    rw [readNat?, readDigits_eq_some, DenotesNat]
    · simp
    · simp

theorem readInt?_minus (digits : List Char) :
    readInt? ('-' :: digits) = Option.map (fun n : Nat => -(n : Int)) (readNat? digits) := by
  rw [readInt?]
  cases readNat? digits <;> rfl

theorem readInt?_plus (digits : List Char) :
    readInt? ('+' :: digits) = Option.map (fun n : Nat => (n : Int)) (readNat? digits) := by
  rw [readInt?]
  cases readNat? digits <;> rfl

theorem readInt?_plain {text : List Char} (hplus : ∀ digits, text ≠ '+' :: digits)
    (hminus : ∀ digits, text ≠ '-' :: digits) :
    readInt? text = Option.map (fun n : Nat => (n : Int)) (readNat? text) := by
  rw [readInt?.eq_3 text hminus hplus]
  cases readNat? text <;> rfl

theorem DenotesNat.ne_cons {text : List Char} {n : Nat} (h : DenotesNat text n) {c : Char}
    (hc : c.isDigit = false) (rest : List Char) : text ≠ c :: rest := by
  rintro rfl
  rw [h.2.1 c List.mem_cons_self] at hc
  cases hc

theorem readInt?_eq_some {text : List Char} {i : Int} :
    readInt? text = some i ↔ Denotes text i := by
  constructor
  · intro h
    by_cases hminus : ∃ digits, text = '-' :: digits
    · obtain ⟨digits, rfl⟩ := hminus
      rw [readInt?_minus] at h
      obtain ⟨n, hn, rfl⟩ := Option.map_eq_some_iff.1 h
      exact .minus (readNat?_eq_some.1 hn)
    · by_cases hplus : ∃ digits, text = '+' :: digits
      · obtain ⟨digits, rfl⟩ := hplus
        rw [readInt?_plus] at h
        obtain ⟨n, hn, rfl⟩ := Option.map_eq_some_iff.1 h
        exact .plus (readNat?_eq_some.1 hn)
      · rw [readInt?_plain (not_exists.1 hplus) (not_exists.1 hminus)] at h
        obtain ⟨n, hn, rfl⟩ := Option.map_eq_some_iff.1 h
        exact .plain (readNat?_eq_some.1 hn)
  · intro h
    cases h with
    | plain h =>
      rw [readInt?_plain (h.ne_cons rfl) (h.ne_cons rfl), readNat?_eq_some.2 h]
      rfl
    | plus h =>
      rw [readInt?_plus, readNat?_eq_some.2 h]
      rfl
    | minus h =>
      rw [readInt?_minus, readNat?_eq_some.2 h]
      rfl

theorem toInt64?_eq_some {i : Int} {value : Int64} :
    toInt64? i = some value ↔ value.toInt = i := by
  rw [toInt64?]
  constructor
  · intro h
    split at h
    · rename_i hrange
      simp only [Bool.and_eq_true, decide_eq_true_eq] at hrange
      obtain ⟨hlow, hhigh⟩ := hrange
      rw [← Option.some.inj h]
      exact Int64.toInt_ofInt_of_le hlow (Int.lt_add_one_of_le hhigh)
    · cases h
  · rintro rfl
    have hrange : (decide (Int64.minValue.toInt ≤ value.toInt) &&
        decide (value.toInt ≤ Int64.maxValue.toInt)) = true := by
      rw [Bool.and_eq_true, decide_eq_true_eq, decide_eq_true_eq]
      exact ⟨value.minValue_le_toInt, value.toInt_le⟩
    rw [if_pos hrange, Int64.ofInt_toInt]

/-- A text is read as the 64-bit integer that it denotes, if there is one. -/
theorem parseInt64?_eq_some {text : String} {value : Int64} :
    parseInt64? text = some value ↔ Denotes text.toList value.toInt := by
  rw [parseInt64?, Option.bind_eq_some_iff, ← readInt?_eq_some]
  constructor
  · rintro ⟨i, hi, hvalue⟩
    rwa [toInt64?_eq_some.1 hvalue]
  · intro h
    exact ⟨value.toInt, h, toInt64?_eq_some.2 rfl⟩

example : parseInt64? "-9223372036854775808" = some Int64.minValue := by decide

example : parseInt64? "+9223372036854775808" = none := by decide

/-! ## Written integers -/

theorem denotesNat_toDigits (n : Nat) : DenotesNat (Nat.toDigits 10 n) n :=
  ⟨Nat.toDigits_ne_nil, fun _ hc => Nat.isDigit_of_mem_toDigits (by decide) (by decide) hc,
    Nat.ofDigitChars_ten_toDigits⟩

/-- The text of an integer denotes it. -/
theorem denotes_render (i : Int) : Denotes (render i).toList i := by
  rw [render, Int.toString_eq_repr, Int.repr_eq_if]
  by_cases hsign : 0 ≤ i
  · rw [if_pos hsign, Nat.toList_repr]
    have h := Denotes.plain (denotesNat_toDigits i.toNat)
    rwa [Int.toNat_of_nonneg hsign] at h
  · rw [if_neg hsign, String.toList_append, Nat.toList_repr]
    have h := Denotes.minus (denotesNat_toDigits (-i).toNat)
    rwa [Int.toNat_of_nonneg (by omega), Int.neg_neg] at h

/-- Only signs and digits denote integers. -/
theorem Denotes.isDigit_or_sign {text : List Char} {i : Int} (h : Denotes text i) {c : Char}
    (hc : c ∈ text) : c.isDigit = true ∨ c = '+' ∨ c = '-' := by
  cases h with
  | plain h => exact .inl (h.2.1 c hc)
  | plus h =>
    rcases List.mem_cons.1 hc with rfl | hc
    · exact .inr (.inl rfl)
    · exact .inl (h.2.1 c hc)
  | minus h =>
    rcases List.mem_cons.1 hc with rfl | hc
    · exact .inr (.inr rfl)
    · exact .inl (h.2.1 c hc)

end RecordFlow.Decimal
