import RecordFlow.Proofs.Text.LineBreaks

/-!
# Texts on a single line

Flattening replaces first the pairs of CR and LF and then what is left of either.  One scan from
left to right does the same: where several pairings seem possible, as in CR CR LF LF, a pair is
taken as soon as its CR is reached.  The scan is stated for any alphabet, so that it can be read
off the bytes of a text too.
-/

namespace RecordFlow.Text

/-- The two line break characters of an alphabet and its blank. -/
structure BreakMarks (α : Type) where
  cr : α
  lf : α
  blank : α
  lf_ne_cr : lf ≠ cr
  blank_ne_cr : blank ≠ cr
  blank_ne_lf : blank ≠ lf

/-- CR, LF and the space. -/
def charMarks : BreakMarks Char := ⟨'\r', '\n', ' ', by decide, by decide, by decide⟩

namespace BreakMarks

variable {α : Type} (m : BreakMarks α)

/-- The character is CR or LF. -/
def IsBreak (a : α) : Prop := a = m.cr ∨ a = m.lf

theorem not_isBreak_blank : ¬ m.IsBreak m.blank := by
  rintro (h | h)
  · exact m.blank_ne_cr h
  · exact m.blank_ne_lf h

/-- The end of the first and the start of the second make a pair. -/
def Meet (front back : List α) : Prop := front.getLast? = some m.cr ∧ back.head? = some m.lf

theorem not_meet_of_cons {a : α} {front back : List α} (h : ¬ m.Meet (a :: front) back) :
    ¬ m.Meet front back := by
  rintro ⟨hlast, hhead⟩
  apply h
  refine ⟨?_, hhead⟩
  rw [List.getLast?_cons, hlast]
  rfl

variable [DecidableEq α]

instance (a : α) : Decidable (m.IsBreak a) := inferInstanceAs (Decidable (_ ∨ _))

/-- What stands for a character that is in no pair. -/
def shown (a : α) : α := if m.IsBreak a then m.blank else a

/-- One scan from left to right.  Each pair of CR and LF, and each CR or LF that is in no such
pair, becomes one blank, and every other character is copied. -/
def blanked : List α → List α
  | [] => []
  | [a] => [m.shown a]
  | a :: b :: rest =>
    if a = m.cr ∧ b = m.lf then m.blank :: blanked rest else m.shown a :: blanked (b :: rest)

theorem shown_of_isBreak {a : α} (h : m.IsBreak a) : m.shown a = m.blank := if_pos h

theorem shown_of_not_isBreak {a : α} (h : ¬ m.IsBreak a) : m.shown a = a := if_neg h

theorem not_isBreak_shown (a : α) : ¬ m.IsBreak (m.shown a) := by
  by_cases h : m.IsBreak a
  · rw [m.shown_of_isBreak h]
    exact m.not_isBreak_blank
  · rwa [m.shown_of_not_isBreak h]

@[simp] theorem blanked_nil : m.blanked [] = [] := rfl

theorem blanked_pair (rest : List α) :
    m.blanked (m.cr :: m.lf :: rest) = m.blank :: m.blanked rest := by
  rw [blanked, if_pos ⟨rfl, rfl⟩]

/-- The first character is scanned alone unless it starts a pair. -/
theorem blanked_cons {a : α} {rest : List α} (h : ¬ (a = m.cr ∧ rest.head? = some m.lf)) :
    m.blanked (a :: rest) = m.shown a :: m.blanked rest := by
  cases rest with
  | nil => rfl
  | cons b rest =>
    have hpair : ¬ (a = m.cr ∧ b = m.lf) := by
      rintro ⟨ha, hb⟩
      exact h ⟨ha, congrArg some hb⟩
    rw [blanked, if_neg hpair]

/-- A list is empty, starts with a pair, or starts with a character in no pair. -/
theorem scan_cases (xs : List α) :
    xs = [] ∨ (∃ rest, xs = m.cr :: m.lf :: rest) ∨
      ∃ a rest, xs = a :: rest ∧ ¬ (a = m.cr ∧ rest.head? = some m.lf) := by
  cases xs with
  | nil => exact .inl rfl
  | cons a rest =>
    by_cases h : a = m.cr ∧ rest.head? = some m.lf
    · obtain ⟨rfl, hhead⟩ := h
      obtain ⟨more, rfl⟩ := List.head?_eq_some_iff.1 hhead
      exact .inr (.inl ⟨more, rfl⟩)
    · exact .inr (.inr ⟨a, rest, rfl, h⟩)

/-- No line break is left. -/
theorem not_isBreak_of_mem_blanked {xs : List α} {a : α} (h : a ∈ m.blanked xs) :
    ¬ m.IsBreak a := by
  fun_induction m.blanked xs with
  | case1 => exact absurd h List.not_mem_nil
  | case2 b =>
    rw [List.mem_singleton.1 h]
    exact m.not_isBreak_shown b
  | case3 b c rest hpair ih =>
    rcases List.mem_cons.1 h with rfl | hrest
    · exact m.not_isBreak_blank
    · exact ih hrest
  | case4 b c rest hpair ih =>
    rcases List.mem_cons.1 h with rfl | hrest
    · exact m.not_isBreak_shown b
    · exact ih hrest

/-- Without line breaks everything is copied. -/
theorem blanked_of_not_isBreak {xs : List α} (h : ∀ a ∈ xs, ¬ m.IsBreak a) :
    m.blanked xs = xs := by
  induction xs with
  | nil => rfl
  | cons a rest ih =>
    have ha : ¬ m.IsBreak a := h a List.mem_cons_self
    have hrest : m.blanked rest = rest := ih fun b hb => h b (List.mem_cons_of_mem a hb)
    have hsingle : ¬ (a = m.cr ∧ rest.head? = some m.lf) := fun hpair => ha (.inl hpair.1)
    rw [m.blanked_cons hsingle, m.shown_of_not_isBreak ha, hrest]

/-! ## Two texts, one after the other -/

theorem blanked_append {front back : List α} (h : ¬ m.Meet front back) :
    m.blanked (front ++ back) = m.blanked front ++ m.blanked back := by
  fun_induction m.blanked front with
  | case1 => rfl
  | case2 a =>
    have hsingle : ¬ (a = m.cr ∧ back.head? = some m.lf) := fun hpair =>
      h ⟨congrArg some hpair.1, hpair.2⟩
    rw [List.singleton_append, m.blanked_cons hsingle, List.singleton_append]
  | case3 a b rest hpair ih =>
    obtain ⟨rfl, rfl⟩ := hpair
    have hrest := m.not_meet_of_cons (m.not_meet_of_cons h)
    rw [List.cons_append, List.cons_append, m.blanked_pair, ih hrest, List.cons_append]
  | case4 a b rest hpair ih =>
    have hsingle : ¬ (a = m.cr ∧ (b :: rest ++ back).head? = some m.lf) := fun hmeet =>
      hpair ⟨hmeet.1, Option.some.inj hmeet.2⟩
    rw [List.cons_append, m.blanked_cons hsingle, ih (m.not_meet_of_cons h), List.cons_append]

/-- A pair that is torn apart gives one blank more. -/
theorem length_blanked_of_meet {front back : List α} (h : m.Meet front back) :
    (m.blanked (front ++ back)).length + 1 = (m.blanked front ++ m.blanked back).length := by
  obtain ⟨before, rfl⟩ := List.getLast?_eq_some_iff.1 h.1
  obtain ⟨after, rfl⟩ := List.head?_eq_some_iff.1 h.2
  have hstart (rest : List α) : ¬ m.Meet before (m.cr :: rest) := fun hmeet =>
    m.lf_ne_cr (Option.some.inj hmeet.2).symm
  have hfront : m.blanked (before ++ [m.cr]) = m.blanked before ++ [m.blank] := by
    rw [m.blanked_append (hstart []), blanked, m.shown_of_isBreak (.inl rfl)]
  have hback : m.blanked (m.lf :: after) = m.blank :: m.blanked after := by
    rw [m.blanked_cons fun hpair => m.lf_ne_cr hpair.1, m.shown_of_isBreak (.inr rfl)]
  have hboth : m.blanked (before ++ [m.cr] ++ m.lf :: after) =
      m.blanked before ++ m.blank :: m.blanked after := by
    rw [List.append_assoc, List.singleton_append, m.blanked_append (hstart _), m.blanked_pair]
  rw [hfront, hback, hboth]
  simp only [List.length_append, List.length_cons, List.length_nil]
  omega

theorem blanked_append_iff {front back : List α} :
    m.blanked (front ++ back) = m.blanked front ++ m.blanked back ↔ ¬ m.Meet front back := by
  constructor
  · intro h hmeet
    have hlength := m.length_blanked_of_meet hmeet
    rw [h] at hlength
    exact Nat.succ_ne_self _ hlength
  · exact m.blanked_append

/-! ## Parts of a blanked text -/

/-- Where the result is cut, the text can be cut. -/
theorem exists_of_blanked_eq_append {xs front back : List α} (h : m.blanked xs = front ++ back) :
    ∃ before behind, xs = before ++ behind ∧ m.blanked before = front ∧
      m.blanked behind = back := by
  induction front generalizing xs with
  | nil => exact ⟨[], xs, rfl, rfl, h⟩
  | cons b front ih =>
    rcases m.scan_cases xs with rfl | ⟨rest, rfl⟩ | ⟨a, rest, rfl, hsingle⟩
    · cases h
    · rw [m.blanked_pair, List.cons_append, List.cons.injEq] at h
      obtain ⟨before, behind, rfl, hfront, hback⟩ := ih h.2
      refine ⟨m.cr :: m.lf :: before, behind, rfl, ?_, hback⟩
      rw [m.blanked_pair, hfront, h.1]
    · rw [m.blanked_cons hsingle, List.cons_append, List.cons.injEq] at h
      obtain ⟨before, behind, rfl, hfront, hback⟩ := ih h.2
      refine ⟨a :: before, behind, rfl, ?_, hback⟩
      have hbefore : ¬ (a = m.cr ∧ before.head? = some m.lf) := by
        rintro ⟨ha, hhead⟩
        apply hsingle
        rw [List.head?_append, hhead]
        exact ⟨ha, rfl⟩
      rw [m.blanked_cons hbefore, hfront, h.1]

/-- Blanks stand for all line breaks, so a result without blanks is the text. -/
theorem eq_of_blank_not_mem {xs : List α} (h : m.blank ∉ m.blanked xs) : xs = m.blanked xs := by
  induction xs with
  | nil => rfl
  | cons a rest ih =>
    rcases m.scan_cases (a :: rest) with hnil | ⟨more, hpair⟩ | ⟨b, more, hcons, hsingle⟩
    · cases hnil
    · rw [hpair, m.blanked_pair] at h
      exact absurd List.mem_cons_self h
    · cases hcons
      rw [m.blanked_cons hsingle, List.mem_cons, not_or] at h
      have ha : ¬ m.IsBreak a := fun hbreak => h.1 (m.shown_of_isBreak hbreak).symm
      rw [m.blanked_cons hsingle, m.shown_of_not_isBreak ha, ← ih h.2]

theorem eq_nil_of_blanked {xs : List α} (h : m.blanked xs = []) : xs = [] := by
  have hblank : m.blank ∉ m.blanked xs := by
    rw [h]
    exact List.not_mem_nil
  exact (m.eq_of_blank_not_mem hblank).trans h

/-- A piece without line breaks and blanks stands in the result exactly where it stands in the
text. -/
theorem blanked_eq_append_iff {xs piece front back : List α} (hne : piece ≠ [])
    (hbreak : ∀ a ∈ piece, ¬ m.IsBreak a) (hblank : m.blank ∉ piece) :
    m.blanked xs = front ++ piece ++ back ↔
      ∃ before behind, xs = before ++ piece ++ behind ∧ m.blanked before = front ∧
        m.blanked behind = back := by
  constructor
  · intro h
    rw [List.append_assoc] at h
    obtain ⟨before, rest, rfl, hfront, hrest⟩ := m.exists_of_blanked_eq_append h
    obtain ⟨middle, behind, rfl, hmiddle, hback⟩ := m.exists_of_blanked_eq_append hrest
    have hkept : middle = piece := (m.eq_of_blank_not_mem (by rwa [hmiddle])).trans hmiddle
    rw [hkept, ← List.append_assoc]
    exact ⟨before, behind, rfl, hfront, hback⟩
  · rintro ⟨before, behind, rfl, rfl, rfl⟩
    have hstart : ¬ m.Meet before (piece ++ behind) := by
      rintro ⟨-, hhead⟩
      obtain ⟨a, rest, rfl⟩ := List.exists_cons_of_ne_nil hne
      exact hbreak a List.mem_cons_self (.inr (Option.some.inj hhead))
    have hend : ¬ m.Meet piece behind := fun hmeet =>
      hbreak m.cr (List.mem_of_getLast? hmeet.1) (.inl rfl)
    rw [List.append_assoc, m.blanked_append hstart, m.blanked_append hend,
      m.blanked_of_not_isBreak hbreak, List.append_assoc]

end BreakMarks

/-! ## Flattened texts -/

theorem flattenChars_cons {c : Char} {rest : List Char}
    (h : ¬ (c = '\r' ∧ rest.head? = some '\n')) :
    flattenChars (c :: rest) = blankBreak c :: flattenChars rest := by
  have hjoin : joinBreakPairs (c :: rest) = c :: joinBreakPairs rest := by
    rw [joinBreakPairs]
    rintro more rfl rfl
    exact h ⟨rfl, rfl⟩
  rw [flattenChars, hjoin]
  rfl

theorem shown_charMarks (c : Char) : charMarks.shown c = blankBreak c := by
  have hbreak : (c == '\n' || c == '\r') = true ↔ charMarks.IsBreak c := by
    rw [Bool.or_eq_true, beq_iff_eq, beq_iff_eq, or_comm]
    rfl
  rw [blankBreak]
  by_cases h : charMarks.IsBreak c
  · rw [if_pos (hbreak.2 h), charMarks.shown_of_isBreak h]
    rfl
  · rw [if_neg (mt hbreak.1 h), charMarks.shown_of_not_isBreak h]

/-- Two passes are one scan. -/
theorem flattenChars_eq_blanked (text : List Char) :
    flattenChars text = charMarks.blanked text := by
  fun_induction charMarks.blanked text with
  | case1 => rfl
  | case2 c =>
    have hsingle : ¬ (c = '\r' ∧ ([] : List Char).head? = some '\n') := nofun
    rw [flattenChars_cons hsingle, shown_charMarks]
    rfl
  | case3 c d rest hpair ih =>
    obtain ⟨rfl, rfl⟩ := hpair
    exact congrArg _ ih
  | case4 c d rest hpair ih =>
    have hsingle : ¬ (c = '\r' ∧ (d :: rest).head? = some '\n') := fun hmeet =>
      hpair ⟨hmeet.1, Option.some.inj hmeet.2⟩
    rw [flattenChars_cons hsingle, ih, shown_charMarks]

theorem toList_flatten (text : String) : (flatten text).toList = charMarks.blanked text.toList := by
  rw [flatten, String.toList_ofList, flattenChars_eq_blanked]

def byteMarks : BreakMarks UInt8 := ⟨0x0D, 0x0A, 0x20, by decide, by decide, by decide⟩

theorem cr_mem_utf8EncodeChar {c : Char} : 0x0D ∈ String.utf8EncodeChar c ↔ c = '\r' := by
  rw [Utf8.mem_utf8EncodeChar_ascii (by decide)]
  exact ⟨fun h => Char.toNat_inj.1 h, fun h => h ▸ rfl⟩

theorem lf_mem_utf8EncodeChar {c : Char} : 0x0A ∈ String.utf8EncodeChar c ↔ c = '\n' := by
  rw [Utf8.mem_utf8EncodeChar_ascii (by decide)]
  exact ⟨fun h => Char.toNat_inj.1 h, fun h => h ▸ rfl⟩

theorem not_isBreak_of_mem_utf8EncodeChar {c : Char} (h : ¬ charMarks.IsBreak c) :
    ∀ b ∈ String.utf8EncodeChar c, ¬ byteMarks.IsBreak b := by
  rintro b hb (rfl | rfl)
  · exact h (.inl (cr_mem_utf8EncodeChar.1 hb))
  · exact h (.inr (lf_mem_utf8EncodeChar.1 hb))

/-- The form of a character is scanned as the character is. -/
theorem blanked_utf8EncodeChar (c : Char) :
    byteMarks.blanked (String.utf8EncodeChar c) = String.utf8EncodeChar (charMarks.shown c) := by
  by_cases h : charMarks.IsBreak c
  · rcases h with rfl | rfl <;> decide
  · rw [charMarks.shown_of_not_isBreak h]
    exact byteMarks.blanked_of_not_isBreak (not_isBreak_of_mem_utf8EncodeChar h)

/-- The forms of two characters make a pair only if the characters do. -/
theorem not_meet_encodeChars {c : Char} {rest : List Char}
    (h : ¬ (c = '\r' ∧ rest.head? = some '\n')) :
    ¬ byteMarks.Meet (String.utf8EncodeChar c) (Utf8.encodeChars rest) := by
  rintro ⟨hlast, hhead⟩
  cases rest with
  | nil => cases hhead
  | cons d rest =>
    obtain ⟨b, more, henc⟩ :=
      List.exists_cons_of_ne_nil (String.utf8EncodeChar_ne_nil (c := d))
    rw [Utf8.encodeChars_cons, henc] at hhead
    have hd : 0x0A ∈ String.utf8EncodeChar d := by
      rw [henc, Option.some.inj hhead]
      exact List.mem_cons_self
    apply h
    constructor
    · exact cr_mem_utf8EncodeChar.1 (List.mem_of_getLast? hlast)
    · exact congrArg some (lf_mem_utf8EncodeChar.1 hd)

/-- The form of a character that is no line break and no blank stands in the scanned bytes exactly
where it stands in the bytes. -/
theorem blanked_eq_append_char_iff {c : Char} (hbreak : ¬ charMarks.IsBreak c) (hblank : c ≠ ' ')
    {bytes front back : Bytes} :
    byteMarks.blanked bytes = front ++ String.utf8EncodeChar c ++ back ↔
      ∃ before behind, bytes = before ++ String.utf8EncodeChar c ++ behind ∧
        byteMarks.blanked before = front ∧ byteMarks.blanked behind = back := by
  apply byteMarks.blanked_eq_append_iff String.utf8EncodeChar_ne_nil
    (not_isBreak_of_mem_utf8EncodeChar hbreak)
  intro hmem
  exact hblank (Char.toNat_inj.1 ((Utf8.mem_utf8EncodeChar_ascii (by decide) c).1 hmem))

/-- Such a character comes first in the scanned bytes exactly if it does in the bytes. -/
theorem utf8EncodeChar_isPrefix_blanked_iff {c : Char} (hbreak : ¬ charMarks.IsBreak c)
    (hblank : c ≠ ' ') {bytes : Bytes} :
    String.utf8EncodeChar c <+: byteMarks.blanked bytes ↔ String.utf8EncodeChar c <+: bytes := by
  constructor
  · rintro ⟨back, hback⟩
    have hcut : byteMarks.blanked bytes = [] ++ String.utf8EncodeChar c ++ back := hback.symm
    obtain ⟨before, behind, rfl, hfront, -⟩ :=
      (blanked_eq_append_char_iff hbreak hblank).1 hcut
    obtain rfl := byteMarks.eq_nil_of_blanked hfront
    exact ⟨behind, rfl⟩
  · rintro ⟨behind, rfl⟩
    exact ⟨byteMarks.blanked behind, ((blanked_eq_append_char_iff hbreak hblank).2
      ⟨[], behind, rfl, rfl, rfl⟩).symm⟩

/-- Scanning the bytes of a text gives the bytes of the scanned text. -/
theorem blanked_encodeChars (text : List Char) :
    byteMarks.blanked (Utf8.encodeChars text) = Utf8.encodeChars (charMarks.blanked text) := by
  fun_induction charMarks.blanked text with
  | case1 => rfl
  | case2 c =>
    rw [Utf8.encodeChars_cons, Utf8.encodeChars_cons, Utf8.encodeChars_nil, List.append_nil,
      List.append_nil, blanked_utf8EncodeChar]
  | case3 c d rest hpair ih =>
    obtain ⟨rfl, rfl⟩ := hpair
    rw [Utf8.encodeChars_cons charMarks.blank, ← ih]
    exact byteMarks.blanked_pair _
  | case4 c d rest hpair ih =>
    have hsingle : ¬ (c = '\r' ∧ (d :: rest).head? = some '\n') := fun hmeet =>
      hpair ⟨hmeet.1, Option.some.inj hmeet.2⟩
    rw [Utf8.encodeChars_cons c, byteMarks.blanked_append (not_meet_encodeChars hsingle), ih,
      blanked_utf8EncodeChar, Utf8.encodeChars_cons]

theorem encode_flatten (text : String) :
    Utf8.encode (flatten text) = byteMarks.blanked (Utf8.encode text) := by
  rw [Utf8.encode, Utf8.encode, toList_flatten, blanked_encodeChars]

/-- Flattening is one scan of the text.  It leaves no line break of either kind, so flattening
again changes nothing, and it can be done text by text exactly where no pair of CR and LF is torn
apart. -/
theorem flatten_by_scan (text : String) :
    (flatten text).toList = charMarks.blanked text.toList ∧
      ('\r' ∉ (flatten text).toList ∧ '\n' ∉ (flatten text).toList) ∧
      flatten (flatten text) = flatten text ∧
      ∀ more : String, flatten (text ++ more) = flatten text ++ flatten more ↔
        ¬ (text.toList.getLast? = some '\r' ∧ more.toList.head? = some '\n') := by
  have hfree : ∀ c ∈ (flatten text).toList, ¬ charMarks.IsBreak c := by
    rw [toList_flatten]
    intro c hc
    exact charMarks.not_isBreak_of_mem_blanked hc
  refine ⟨toList_flatten text, ⟨?_, ?_⟩, ?_, fun more => ?_⟩
  · exact fun hmem => hfree '\r' hmem (.inl rfl)
  · exact fun hmem => hfree '\n' hmem (.inr rfl)
  · apply String.toList_inj.1
    rw [toList_flatten (flatten text), charMarks.blanked_of_not_isBreak hfree]
  · rw [← String.toList_inj, String.toList_append, toList_flatten, toList_flatten, toList_flatten,
      String.toList_append]
    exact charMarks.blanked_append_iff

/-- Of the two CR the second one makes the pair, and the second LF is left over. -/
example : flatten "a\r\r\n\nb" = "a   b" := by decide

end RecordFlow.Text
