import RecordFlow.Decimal.Integer

/-!
# Dates and times

A date, a time of day, or both, in the last case perhaps with an offset from universal
time.  Reading accepts what exists in the proleptic Gregorian calendar, and a leap
second in any minute.
-/

namespace RecordFlow.Toml

structure Date where
  year : Nat
  month : Nat
  day : Nat
  deriving DecidableEq, Repr

structure Time where
  hour : Nat
  minute : Nat
  second : Nat
  nanosecond : Nat := 0
  deriving DecidableEq, Repr

inductive Offset where
  | universal
  | minutes (m : Int)
  deriving DecidableEq, Repr

/-- A date, a time, or both. -/
inductive Datetime where
  | date (date : Date)
  | time (time : Time)
  | both (date : Date) (time : Time) (offset : Option Offset)
  deriving DecidableEq, Repr

/-! ### Writing -/

def padded (width n : Nat) : String :=
  let digits := toString n
  String.ofList (List.replicate (width - digits.length) '0') ++ digits

def Date.render (date : Date) : String :=
  s!"{padded 4 date.year}-{padded 2 date.month}-{padded 2 date.day}"

/-- The digits of a fraction of a second, without zeros at the end. -/
def fractionDigits (nanosecond : Nat) : List Char :=
  ((padded 9 nanosecond).toList.reverse.dropWhile (· == '0')).reverse

/-- Hour, minute and second, joined by colons, and the fraction if there is one. -/
def Time.render (time : Time) : String :=
  let clock := s!"{padded 2 time.hour}:{padded 2 time.minute}:{padded 2 time.second}"
  if time.nanosecond = 0 then clock
  else clock ++ "." ++ String.ofList (fractionDigits time.nanosecond)

/-- `Z`, or a sign and hours and minutes. -/
def Offset.render : Offset → String
  | universal => "Z"
  | minutes m =>
    let sign := if m < 0 then "-" else "+"
    s!"{sign}{padded 2 (m.natAbs / 60)}:{padded 2 (m.natAbs % 60)}"

def Datetime.render : Datetime → String
  | date d => d.render
  | time t => t.render
  | both d t offset => d.render ++ "T" ++ t.render ++ (offset.map Offset.render).getD ""

/-! ### Reading -/

/-- The largest numbers that the parts of a time may have. -/
structure ClockLimits where
  hour : Nat
  offsetHour : Nat
  offsetMinute : Nat

/-- The limits of a time in a document. -/
def ClockLimits.strict : ClockLimits := ⟨23, 23, 59⟩

/-- The limits of a time that a string holds: only its place in the text counts, as long
as the offset is no longer than a day. -/
def ClockLimits.loose : ClockLimits := ⟨24, 99, 99⟩

/-- The longest offset, in minutes. -/
def maxOffset : Nat := 24 * 60

/-- A number of exactly `n` digits that is at least `low` and at most `high`, and the
text after it. -/
def scanField? (n low high : Nat) (text : List Char) : Option (Nat × List Char) :=
  let digits := text.take n
  if digits.length = n then
    match Decimal.readNat? digits with
    | some value => if low ≤ value && value ≤ high then some (value, text.drop n) else none
    | none => none
  else none

def dropChar? (c : Char) : List Char → Option (List Char)
  | d :: rest => if c == d then some rest else none
  | [] => none

/-- Years with a 29th of February. -/
def isLeapYear (year : Nat) : Bool :=
  year % 4 == 0 && (year % 100 != 0 || year % 400 == 0)

def daysInMonth (year month : Nat) : Nat :=
  if month = 2 then if isLeapYear year then 29 else 28
  else if [4, 6, 9, 11].contains month then 30
  else 31

def scanDate? (text : List Char) : Option (Date × List Char) := do
  let (year, rest) ← scanField? 4 0 9999 text
  let (month, rest) ← scanField? 2 1 12 (← dropChar? '-' rest)
  let (day, rest) ← scanField? 2 1 (daysInMonth year month) (← dropChar? '-' rest)
  pure (⟨year, month, day⟩, rest)

/-- A fraction of a second at the front, in nanoseconds; further digits are dropped.
Without a fraction nothing is taken. -/
def scanFraction (text : List Char) : Nat × List Char :=
  match text with
  | '.' :: rest =>
    let digits := rest.takeWhile Char.isDigit
    match Decimal.readNat? (digits.take 9) with
    | some value => (value * Nat.pow 10 (9 - digits.length), rest.drop digits.length)
    | none => (0, text)
  | _ => (0, text)

def scanTime? (limits : ClockLimits) (text : List Char) : Option (Time × List Char) := do
  let (hour, rest) ← scanField? 2 0 limits.hour text
  let (minute, rest) ← scanField? 2 0 59 (← dropChar? ':' rest)
  let (second, rest) ← scanField? 2 0 60 (← dropChar? ':' rest)
  let (nanosecond, rest) := scanFraction rest
  pure (⟨hour, minute, second, nanosecond⟩, rest)

def scanOffset? (limits : ClockLimits) (text : List Char) : Option (Offset × List Char) :=
  let signed (isAhead : Bool) (rest : List Char) : Option (Offset × List Char) := do
    let (hours, rest) ← scanField? 2 0 limits.offsetHour rest
    let (minutes, rest) ← scanField? 2 0 limits.offsetMinute (← dropChar? ':' rest)
    let m := hours * 60 + minutes
    if maxOffset < m then none else pure (.minutes (if isAhead then m else -m), rest)
  match text with
  | 'Z' :: rest | 'z' :: rest => some (.universal, rest)
  | '+' :: rest => signed true rest
  | '-' :: rest => signed false rest
  | _ => none

/-- The text after the mark between a date and a time. -/
def dropTimeMark? : List Char → Option (List Char)
  | 'T' :: rest | 't' :: rest | ' ' :: rest => some rest
  | _ => none

/-- What may follow a date: a time, perhaps with an offset. -/
def scanAfterDate (limits : ClockLimits) (date : Date) (text : List Char) :
    Datetime × List Char :=
  match (dropTimeMark? text).bind (scanTime? limits) with
  | none => (.date date, text)
  | some (time, rest) =>
    match scanOffset? limits rest with
    | some (offset, rest) => (.both date time (some offset), rest)
    | none => (.both date time none, rest)

/-- A date, a time, or both at the front. -/
def scanDatetime? (limits : ClockLimits) (text : List Char) :
    Option (Datetime × List Char) :=
  match scanDate? text with
  | some (date, rest) => some (scanAfterDate limits date rest)
  | none => (scanTime? limits text).map fun (time, rest) => (.time time, rest)

/-- The date, time, or both that a string holds. -/
def Datetime.ofString? (text : String) : Option Datetime :=
  match scanDatetime? .loose text.toList with
  | some (d, []) => some d
  | _ => none

end RecordFlow.Toml
