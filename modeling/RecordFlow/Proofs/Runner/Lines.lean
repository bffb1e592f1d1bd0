import RecordFlow.Proofs.Text.LineBreaks
import RecordFlow.Runner.Records
import Mathlib

/-!
# Reading by lines

What a line holds, or what is wrong with it, is said without regard to the lines around it.
The reader stops at the first line with which something is wrong.  Its number is the place of
the line in the input, so it counts the blank lines, but otherwise a blank line leaves no trace.
-/

namespace RecordFlow.Runner

def IsBlank (line : Bytes) : Prop :=
  ∃ text, line = Utf8.encode text ∧ ∀ c ∈ text.toList, Text.isBlankChar c = true

/-- What a line holds by itself: a blank line nothing, any other line a record. -/
inductive Holds (line : Bytes) : Option Record → Prop where
  | blank (h : IsBlank line) : Holds line none
  | record {text : String} {parsed : InputLine} (htext : line = Utf8.encode text)
      (hwritten : ¬ IsBlank line)
      (hparsed : Json.decodeBytes InputLine.shape.decoder line = .ok parsed) :
      Holds line (some parsed.record)

/-- What is wrong with the line of this number. -/
inductive Offends (number : Nat) (line : Bytes) : RunFault → Prop where
  | notText (h : ∀ text, line ≠ Utf8.encode text) :
      Offends number line (.stream "stream did not contain valid UTF-8")
  | notRecord {text : String} {problem : Problem} (htext : line = Utf8.encode text)
      (hwritten : ¬ IsBlank line)
      (hproblem : Json.decodeBytes InputLine.shape.decoder line = .error problem) :
      Offends number line (.input number problem)

/-- Line by line, these records are held. -/
def Hold (lines : List Bytes) (records : List Record) : Prop :=
  ∃ found, List.Forall₂ Holds lines found ∧ records = found.reduceOption

/-- This is wrong with the first line with which something is wrong. -/
def FirstOffends (number : Nat) (lines : List Bytes) (fault : RunFault) : Prop :=
  ∃ before line after, lines = before ++ line :: after ∧
    (∀ earlier ∈ before, ∃ found, Holds earlier found) ∧
    Offends (number + before.length) line fault

/-- The lines of the first list, with blank lines put between them. -/
inductive Spaced : List Bytes → List Bytes → Prop where
  | done : Spaced [] []
  | keep {lines spaced : List Bytes} (line : Bytes) (h : Spaced lines spaced) :
      Spaced (line :: lines) (line :: spaced)
  | insert {lines spaced : List Bytes} {line : Bytes} (hblank : IsBlank line)
      (h : Spaced lines spaced) : Spaced lines (line :: spaced)

/-- The fault as it is reported when that many lines come first. -/
def RunFault.after (count : Nat) : RunFault → RunFault
  | input line problem => .input (line + count) problem
  | fault => fault

/-! ## One line -/

theorem isBlank_encode {text : String} : IsBlank (Utf8.encode text) ↔ Text.isBlank text = true := by
  rw [IsBlank, Text.isBlank_iff]
  constructor
  · rintro ⟨other, hother, hblank⟩
    rw [← Utf8.decode?_eq_some, Utf8.decode?_encode, Option.some.injEq] at hother
    exact hother ▸ hblank
  · intro hblank
    exact ⟨text, rfl, hblank⟩

theorem readLine_of_holds {line : Bytes} {found : Option Record} (h : Holds line found)
    (number : Nat) : readLine number line = .ok found := by
  cases h with
  | blank hblank =>
    obtain ⟨text, rfl, hchars⟩ := hblank
    rw [readLine, Utf8.decode?_encode]
    exact if_pos (Text.isBlank_iff.2 hchars)
  | record htext hwritten hparsed =>
    subst htext
    rw [readLine, Utf8.decode?_encode]
    dsimp only
    rw [if_neg (mt isBlank_encode.2 hwritten), hparsed]

theorem readLine_of_offends {number : Nat} {line : Bytes} {fault : RunFault}
    (h : Offends number line fault) : readLine number line = .error fault := by
  cases h with
  | notText hbytes => rw [readLine, Utf8.decode?_eq_none.2 hbytes]
  | notRecord htext hwritten hproblem =>
    subst htext
    rw [readLine, Utf8.decode?_encode]
    dsimp only
    rw [if_neg (mt isBlank_encode.2 hwritten), hproblem]

/-- A line holds something, or something is wrong with it. -/
theorem holds_or_offends (number : Nat) (line : Bytes) :
    (∃ found, Holds line found) ∨ ∃ fault, Offends number line fault := by
  cases htext : Utf8.decode? line with
  | none => exact .inr ⟨_, .notText (Utf8.decode?_eq_none.1 htext)⟩
  | some text =>
    rw [Utf8.decode?_eq_some] at htext
    by_cases hblank : IsBlank line
    · exact .inl ⟨none, .blank hblank⟩
    · cases hparsed : Json.decodeBytes InputLine.shape.decoder line with
      | ok parsed => exact .inl ⟨_, .record htext hblank hparsed⟩
      | error problem => exact .inr ⟨_, .notRecord htext hblank hparsed⟩

theorem readLine_eq_ok {number : Nat} {line : Bytes} {found : Option Record} :
    readLine number line = .ok found ↔ Holds line found := by
  constructor
  · intro h
    rcases holds_or_offends number line with ⟨other, hholds⟩ | ⟨fault, hoffends⟩
    · rw [readLine_of_holds hholds, Except.ok.injEq] at h
      exact h ▸ hholds
    · rw [readLine_of_offends hoffends] at h
      cases h
  · exact fun h => readLine_of_holds h number

theorem readLine_eq_error {number : Nat} {line : Bytes} {fault : RunFault} :
    readLine number line = .error fault ↔ Offends number line fault := by
  constructor
  · intro h
    rcases holds_or_offends number line with ⟨found, hholds⟩ | ⟨other, hoffends⟩
    · rw [readLine_of_holds hholds] at h
      cases h
    · rw [readLine_of_offends hoffends, Except.error.injEq] at h
      exact h ▸ hoffends
  · exact readLine_of_offends

/-! ## All lines -/

theorem hold_nil {records : List Record} : Hold [] records ↔ records = [] := by
  rw [Hold]
  simp only [List.forall₂_nil_left_iff, exists_eq_left, List.reduceOption_nil]

theorem hold_cons {line : Bytes} {lines : List Bytes} {records : List Record} :
    Hold (line :: lines) records ↔
      ∃ found more, Holds line found ∧ Hold lines more ∧ records = found.toList ++ more := by
  have hreduce (found : Option Record) (others : List (Option Record)) :
      (found :: others).reduceOption = found.toList ++ others.reduceOption := by
    cases found with
    | none => rfl
    | some r => rfl
  constructor
  · rintro ⟨_, _ | ⟨hholds, hothers⟩, rfl⟩
    exact ⟨_, _, hholds, ⟨_, hothers, rfl⟩, hreduce _ _⟩
  · rintro ⟨found, _, hholds, ⟨others, hothers, rfl⟩, rfl⟩
    exact ⟨found :: others, .cons hholds hothers, (hreduce _ _).symm⟩

theorem not_firstOffends_nil {number : Nat} {fault : RunFault} :
    ¬ FirstOffends number [] fault := by
  rintro ⟨before, line, after, hlines, -⟩
  exact List.append_ne_nil_of_right_ne_nil before (List.cons_ne_nil line after) hlines.symm

theorem firstOffends_cons {number : Nat} {line : Bytes} {lines : List Bytes} {fault : RunFault} :
    FirstOffends number (line :: lines) fault ↔
      Offends number line fault ∨
        (∃ found, Holds line found) ∧ FirstOffends (number + 1) lines fault := by
  constructor
  · rintro ⟨_ | ⟨first, before⟩, other, after, hlines, hbefore, hoffends⟩
    · cases hlines
      exact .inl hoffends
    · cases hlines
      rw [List.length_cons, Nat.add_comm before.length, ← Nat.add_assoc] at hoffends
      rw [List.forall_mem_cons] at hbefore
      exact .inr ⟨hbefore.1, before, other, after, rfl, hbefore.2, hoffends⟩
  · rintro (hoffends | ⟨hholds, before, other, after, rfl, hbefore, hoffends⟩)
    · exact ⟨[], line, lines, rfl, by simp, hoffends⟩
    · refine ⟨line :: before, other, after, rfl, List.forall_mem_cons.2 ⟨hholds, hbefore⟩, ?_⟩
      rwa [List.length_cons, Nat.add_comm before.length, ← Nat.add_assoc]

variable {number : Nat} {pieces : List Bytes}

theorem readLines_cons_eq_ok {piece : Bytes} {records : List Record} :
    readLines number (piece :: pieces) = .ok records ↔
      ∃ found more, readLine number (Text.dropCarriageReturn piece) = .ok found ∧
        readLines (number + 1) pieces = .ok more ∧ records = found.toList ++ more := by
  rw [readLines]
  cases readLine number (Text.dropCarriageReturn piece) with
  | error fault => simp
  | ok found =>
    cases readLines (number + 1) pieces with
    | error fault => simp
    | ok more => simp [eq_comm]

theorem readLines_cons_eq_error {piece : Bytes} {fault : RunFault} :
    readLines number (piece :: pieces) = .error fault ↔
      readLine number (Text.dropCarriageReturn piece) = .error fault ∨
        (∃ found, readLine number (Text.dropCarriageReturn piece) = .ok found) ∧
          readLines (number + 1) pieces = .error fault := by
  rw [readLines]
  cases readLine number (Text.dropCarriageReturn piece) with
  | error fault => simp
  | ok found =>
    cases readLines (number + 1) pieces with
    | error fault => simp
    | ok more => simp

/-- The reader succeeds with the records that the lines hold, wherever they are. -/
theorem readLines_eq_ok {records : List Record} :
    readLines number pieces = .ok records ↔
      Hold (pieces.map Text.dropCarriageReturn) records := by
  induction pieces generalizing number records with
  | nil => rw [readLines, Except.ok.injEq, List.map_nil, hold_nil, eq_comm]
  | cons piece pieces ih =>
    rw [readLines_cons_eq_ok, List.map_cons, hold_cons]
    simp only [readLine_eq_ok, ih]

/-- The reader fails with what is wrong with the first line that offends. -/
theorem readLines_eq_error {fault : RunFault} :
    readLines number pieces = .error fault ↔
      FirstOffends number (pieces.map Text.dropCarriageReturn) fault := by
  induction pieces generalizing number with
  | nil =>
    rw [readLines]
    exact iff_of_false (fun h => by cases h) not_firstOffends_nil
  | cons piece pieces ih =>
    rw [readLines_cons_eq_error, List.map_cons, firstOffends_cons, readLine_eq_error, ih]
    simp only [readLine_eq_ok]

/-- Lines hold records when each holds something. -/
theorem exists_hold_iff {lines : List Bytes} :
    (∃ records, Hold lines records) ↔ ∀ line ∈ lines, ∃ found, Holds line found := by
  induction lines with
  | nil => exact iff_of_true ⟨[], hold_nil.2 rfl⟩ (by simp)
  | cons line lines ih =>
    rw [List.forall_mem_cons, ← ih]
    simp only [hold_cons]
    constructor
    · rintro ⟨records, found, more, hholds, hhold, -⟩
      exact ⟨⟨found, hholds⟩, more, hhold⟩
    · rintro ⟨⟨found, hholds⟩, more, hhold⟩
      exact ⟨_, found, more, hholds, hhold, rfl⟩

/-- A blank line holds nothing else. -/
theorem holds_of_isBlank {line : Bytes} {found : Option Record} (hblank : IsBlank line) :
    Holds line found ↔ found = none := by
  constructor
  · rintro (_ | ⟨_, hwritten, _⟩)
    · rfl
    · exact absurd hblank hwritten
  · rintro rfl
    exact .blank hblank

/-- Blank lines between the others change no record. -/
theorem hold_of_spaced {lines spaced : List Bytes} (h : Spaced lines spaced)
    {records : List Record} : Hold spaced records ↔ Hold lines records := by
  induction h generalizing records with
  | done => exact Iff.rfl
  | keep line _ ih =>
    rw [hold_cons, hold_cons]
    simp only [ih]
  | insert hblank _ ih =>
    rw [hold_cons, ← ih]
    simp [holds_of_isBlank hblank]

/-! ## Inputs one behind the other -/

/-- Only the numbers of later lines depend on the number of the first. -/
theorem readLine_add (number count : Nat) (line : Bytes) :
    readLine (number + count) line = (readLine number line).mapError (RunFault.after count) := by
  rw [readLine, readLine]
  cases Utf8.decode? line with
  | none => rfl
  | some text =>
    dsimp only
    split
    · rfl
    · cases Json.decodeBytes InputLine.shape.decoder line with
      | ok parsed => rfl
      | error problem => rfl

theorem readLines_add (number count : Nat) (pieces : List Bytes) :
    readLines (number + count) pieces =
      (readLines number pieces).mapError (RunFault.after count) := by
  induction pieces generalizing number with
  | nil => rfl
  | cons piece pieces ih =>
    rw [readLines, readLines, readLine_add, Nat.add_right_comm, ih]
    cases readLine number (Text.dropCarriageReturn piece) with
    | error fault => rfl
    | ok found =>
      cases readLines (number + 1) pieces with
      | error fault => rfl
      | ok more => rfl

theorem readLines_append (number : Nat) (pieces others : List Bytes) :
    readLines number (pieces ++ others) = do
      let records ← readLines number pieces
      let more ← readLines (number + pieces.length) others
      return records ++ more := by
  induction pieces generalizing number with
  | nil =>
    rw [readLines, List.nil_append, List.length_nil, Nat.add_zero]
    cases readLines number others with
    | error fault => rfl
    | ok more => rfl
  | cons piece pieces ih =>
    rw [List.cons_append, readLines, readLines, ih, List.length_cons, Nat.add_comm pieces.length,
      ← Nat.add_assoc]
    cases readLine number (Text.dropCarriageReturn piece) with
    | error fault => rfl
    | ok found =>
      cases readLines (number + 1) pieces with
      | error fault => rfl
      | ok records =>
        cases readLines (number + 1 + pieces.length) others with
        | error fault => rfl
        | ok more => exact congrArg Except.ok (List.append_assoc _ _ _).symm

/-- Reading line by line.  The lines of an input are what it is cut into, and reading succeeds
exactly when each is blank or holds a record, with one record for each line that is not
blank, in order.  Otherwise it fails with the first line that offends, whose number counts all
lines before it.  Blank lines anywhere change no record, and behind a line feed an input is read
as if it stood alone, but with later numbers. -/
theorem readRecords_by_line (input : Bytes) :
    ∃ lines, (∀ other, Text.LinesOf input other ↔ other = lines) ∧
      (∀ records, readRecords input = .ok records ↔ Hold lines records) ∧
      ((∃ records, readRecords input = .ok records) ↔
        ∀ line ∈ lines, ∃ found, Holds line found) ∧
      (∀ fault, readRecords input = .error fault ↔ FirstOffends 1 lines fault) ∧
      (∀ spaced spacedLines, Text.LinesOf spaced spacedLines → Spaced lines spacedLines →
        ∀ records, readRecords spaced = .ok records ↔ readRecords input = .ok records) ∧
      (input.getLast? = some 0x0A → ∀ rest, readRecords (input ++ rest) = do
        let records ← readRecords input
        let more ← (readRecords rest).mapError (RunFault.after lines.length)
        return records ++ more) := by
  have hread (bytes : Bytes) (records : List Record) : readRecords bytes = .ok records ↔
      Hold ((Text.cutLines bytes).map Text.dropCarriageReturn) records := readLines_eq_ok
  refine ⟨(Text.cutLines input).map Text.dropCarriageReturn, fun _ => Text.linesOf_iff,
    hread input, ?_, fun _ => readLines_eq_error, ?_, ?_⟩
  · simp only [hread]
    exact exists_hold_iff
  · intro spaced spacedLines hlines hspaced records
    rw [Text.linesOf_iff] at hlines
    rw [hread, hread, ← hlines]
    exact hold_of_spaced hspaced
  · intro hfeed rest
    rw [readRecords, Text.cutLines_append hfeed, readLines_append, List.length_map, readLines_add]
    rfl

/-- The second of these lines is blank, and the third is no record.  The carriage return and the
blank line are dropped, but the blank line is counted. -/
theorem readRecords_of_bad_third_line :
    let good : Bytes := Utf8.encode "\x7b\"content\":\"a\"\x7d\r\n \n"
    good.getLast? = some 0x0A ∧ readRecords good = .ok [{ content := Utf8.encode "a" }] ∧
      readRecords (good ++ Utf8.encode "nope") = .error (.input 3 .malformed) := by
  intro good
  obtain ⟨lines, hlines, -, -, -, -, hrest⟩ := readRecords_by_line good
  have hfeed : good.getLast? = some 0x0A := by decide
  have hgood : readRecords good = .ok [{ content := Utf8.encode "a" }] := by decide +kernel
  have hbad : readRecords (Utf8.encode "nope") = .error (.input 1 .malformed) := by cbv
  have hcut : lines = [Utf8.encode "\x7b\"content\":\"a\"\x7d", Utf8.encode " "] := by
    symm
    rw [← hlines, Text.linesOf_iff]
    decide
  refine ⟨hfeed, hgood, ?_⟩
  rw [hrest hfeed, hgood, hbad, hcut]
  rfl

end RecordFlow.Runner
