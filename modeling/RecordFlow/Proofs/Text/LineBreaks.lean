import RecordFlow.Proofs.Text.Utf8
import RecordFlow.Text.LineBreaks

/-!
# Lines

A flattened text is a single line, whatever it was before.  Cutting finds a line again
when its line feed follows it and no other line feed is inside it.  The lines of any bytes are
determined by what a line is, so cutting computes a relation that does not mention it.
-/

namespace RecordFlow.Text

theorem not_break_blankBreak (c : Char) : blankBreak c ≠ '\n' ∧ blankBreak c ≠ '\r' := by
  rw [blankBreak]
  split
  · exact ⟨by decide, by decide⟩
  · rename_i hbreak
    simp only [Bool.or_eq_true, beq_iff_eq, not_or] at hbreak
    exact hbreak

/-- A flattened text has no line break of either kind. -/
theorem not_break_of_mem_flattenChars {text : List Char} {c : Char}
    (h : c ∈ flattenChars text) : c ≠ '\n' ∧ c ≠ '\r' := by
  obtain ⟨d, -, rfl⟩ := List.mem_map.1 h
  exact not_break_blankBreak d

theorem lineFeed_not_mem_flatten (text : String) : '\n' ∉ (flatten text).toList := by
  rw [flatten, String.toList_ofList]
  intro hmem
  exact (not_break_of_mem_flattenChars hmem).1 rfl

/-! ## Cutting -/

@[simp] theorem cutLines_nil : cutLines [] = [] := rfl

theorem consLine_nil {b : UInt8} (h : b ≠ 0x0A) : consLine b [] = [[b]] :=
  if_neg (by simpa using h)

theorem consLine_cons {b : UInt8} (h : b ≠ 0x0A) (line : List UInt8) (lines : List (List UInt8)) :
    consLine b (line :: lines) = (b :: line) :: lines :=
  if_neg (by simpa using h)

theorem cutLines_cons (b : UInt8) (rest : List UInt8) :
    cutLines (b :: rest) = consLine b (cutLines rest) := rfl

theorem cutLines_lineFeed (rest : List UInt8) : cutLines (0x0A :: rest) = [] :: cutLines rest :=
  rfl

/-- A line is cut off at its line feed. -/
theorem cutLines_line {line : List UInt8} (h : 0x0A ∉ line) (rest : List UInt8) :
    cutLines (line ++ 0x0A :: rest) = line :: cutLines rest := by
  induction line with
  | nil => exact cutLines_lineFeed rest
  | cons b line ih =>
    rw [List.mem_cons, not_or] at h
    rw [List.cons_append, cutLines_cons, ih h.2, consLine_cons (Ne.symm h.1)]

/-- Bytes without a line feed are one line. -/
theorem cutLines_piece {piece : List UInt8} (hne : piece ≠ []) (hfeed : 0x0A ∉ piece) :
    cutLines piece = [piece] := by
  induction piece with
  | nil => exact absurd rfl hne
  | cons b piece ih =>
    rw [List.mem_cons, not_or] at hfeed
    cases piece with
    | nil => rw [cutLines_cons, cutLines_nil, consLine_nil (Ne.symm hfeed.1)]
    | cons c piece =>
      rw [cutLines_cons, ih (List.cons_ne_nil c piece) hfeed.2, consLine_cons (Ne.symm hfeed.1)]

/-- A byte in front changes the first line only. -/
theorem consLine_append (b : UInt8) {lines : List (List UInt8)} (h : lines ≠ [])
    (more : List (List UInt8)) : consLine b (lines ++ more) = consLine b lines ++ more := by
  obtain ⟨line, rest, rfl⟩ := List.exists_cons_of_ne_nil h
  by_cases hfeed : b = 0x0A
  · subst hfeed
    rfl
  · rw [List.cons_append, consLine_cons hfeed, consLine_cons hfeed, List.cons_append]

theorem consLine_ne_nil (b : UInt8) (lines : List (List UInt8)) : consLine b lines ≠ [] := by
  by_cases hfeed : b = 0x0A
  · subst hfeed
    exact List.cons_ne_nil _ _
  · cases lines with
    | nil =>
      rw [consLine_nil hfeed]
      exact List.cons_ne_nil _ _
    | cons line lines =>
      rw [consLine_cons hfeed]
      exact List.cons_ne_nil _ _

/-- Behind a line feed cutting starts afresh. -/
theorem cutLines_append {bytes : List UInt8} (h : bytes.getLast? = some 0x0A)
    (rest : List UInt8) : cutLines (bytes ++ rest) = cutLines bytes ++ cutLines rest := by
  induction bytes with
  | nil => cases h
  | cons b bytes ih =>
    cases bytes with
    | nil =>
      cases h
      exact cutLines_lineFeed rest
    | cons c bytes =>
      rw [List.getLast?_cons_cons] at h
      rw [List.cons_append, cutLines_cons, cutLines_cons, ih h]
      exact consLine_append b (consLine_ne_nil c _) (cutLines rest)

/-- A text on one line is cut off as its bytes. -/
theorem cutLines_encode {text : String} (htext : '\n' ∉ text.toList) (rest : List UInt8) :
    cutLines (Utf8.encode (text ++ "\n") ++ rest) = Utf8.encode text :: cutLines rest := by
  have hline : 0x0A ∉ Utf8.encode text := by
    rw [Utf8.encode, Utf8.lineFeed_mem_encodeChars]
    exact htext
  rw [Utf8.encode_append, List.append_assoc]
  exact cutLines_line hline rest

/-! ## Lines -/

/-- The piece is this line, apart from one carriage return it may end in. -/
def Chomps (piece line : List UInt8) : Prop :=
  piece = line ++ [0x0D] ∨ piece = line ∧ ∀ front, piece ≠ front ++ [0x0D]

/-- The bytes consist of these lines.  A line feed ends a line, and what follows the last one is
a line too unless it is empty. -/
inductive LinesOf : List UInt8 → List (List UInt8) → Prop where
  | done : LinesOf [] []
  | last {piece line : List UInt8} (hne : piece ≠ []) (hfeed : 0x0A ∉ piece)
      (hline : Chomps piece line) : LinesOf piece [line]
  | next {piece line rest : List UInt8} {lines : List (List UInt8)} (hfeed : 0x0A ∉ piece)
      (hline : Chomps piece line) (hrest : LinesOf rest lines) :
      LinesOf (piece ++ 0x0A :: rest) (line :: lines)

theorem chomps_iff {piece line : List UInt8} :
    Chomps piece line ↔ line = dropCarriageReturn piece := by
  rw [Chomps, dropCarriageReturn]
  by_cases hlast : piece.getLast? = some 0x0D
  · obtain ⟨front, rfl⟩ := List.getLast?_eq_some_iff.1 hlast
    rw [if_pos (by simp), List.dropLast_concat, List.append_cancel_right_eq]
    constructor
    · rintro (rfl | ⟨-, hplain⟩)
      · rfl
      · exact absurd rfl (hplain front)
    · rintro rfl
      exact .inl rfl
  · have hplain (front : List UInt8) : piece ≠ front ++ [0x0D] := by
      rintro rfl
      exact hlast List.getLast?_concat
    rw [if_neg (by simpa using hlast)]
    constructor
    · rintro (hended | ⟨rfl, -⟩)
      · exact absurd hended (hplain line)
      · rfl
    · rintro rfl
      exact .inr ⟨rfl, hplain⟩

theorem linesOf_cutLines (bytes : List UInt8) :
    LinesOf bytes ((cutLines bytes).map dropCarriageReturn) := by
  by_cases hfeed : 0x0A ∈ bytes
  · obtain ⟨piece, rest, hbytes, hpiece⟩ := List.eq_append_cons_of_mem hfeed
    have hshorter : rest.length < bytes.length := by
      rw [hbytes, List.length_append, List.length_cons]
      omega
    rw [hbytes, cutLines_line hpiece, List.map_cons]
    exact .next hpiece (chomps_iff.2 rfl) (linesOf_cutLines rest)
  · by_cases hne : bytes = []
    · subst hne
      exact .done
    · rw [cutLines_piece hne hfeed]
      exact .last hne hfeed (chomps_iff.2 rfl)
termination_by bytes.length

/-- There is one way to cut bytes into lines. -/
theorem linesOf_iff {bytes : List UInt8} {lines : List (List UInt8)} :
    LinesOf bytes lines ↔ lines = (cutLines bytes).map dropCarriageReturn := by
  constructor
  · intro h
    induction h with
    | done => rfl
    | last hne hfeed hline => rw [cutLines_piece hne hfeed, chomps_iff.1 hline, List.map_singleton]
    | next hfeed hline _ ih => rw [cutLines_line hfeed, List.map_cons, ← ih, chomps_iff.1 hline]
  · rintro rfl
    exact linesOf_cutLines bytes

end RecordFlow.Text
