/-!
# Punycode

Text as letters, digits and hyphens.  ASCII characters come first, as they are; after a
hyphen, the others follow in ascending order, each as the number of steps from the one
before: a step goes one place to the right, and from the end of the text to its start
and the next character.  Numbers are written to base 36 with a threshold for each place
that decides whether a digit is the last one.
-/

namespace RecordFlow.Idna.Punycode

/-- The first character outside ASCII. -/
def firstCode : Nat := 0x80

/-- The bias before the first number. -/
def firstBias : Nat := 72

def digitOf (value : Nat) : Char :=
  if value < 26 then Char.ofNat ('a'.toNat + value) else Char.ofNat ('0'.toNat + (value - 26))

def valueOf? (c : Char) : Option Nat :=
  if c.isDigit then some (c.toNat - '0'.toNat + 26)
  else if c.isLower then some (c.toNat - 'a'.toNat)
  else if c.isUpper then some (c.toNat - 'A'.toNat)
  else none

/-- The threshold of the place with this weight exponent, counted in steps of 36: how far
the place lies beyond the bias, but at least 1 and at most 26. -/
def threshold (place bias : Nat) : Nat := max 1 (min 26 (place - bias))

/-- The first digit of a number always carries some of its value. -/
theorem one_le_threshold (place bias : Nat) : 1 ≤ threshold place bias :=
  Nat.le_max_left ..

/-- The bias that suits numbers of this size: one step of 36 for each division by 35 that
takes the size to 455 or less, and less than a step for what is left. -/
def biasFor (size : Nat) : Nat :=
  if 455 < size then 36 + biasFor (size / 35) else 36 * size / (size + 38)
termination_by size

/-- The bias after a number, given how many characters are placed. -/
def adapt (delta placed : Nat) (isFirst : Bool) : Nat :=
  let damped := delta / (if isFirst then 700 else 2)
  biasFor (damped + damped / placed)

/-! ### Encoding -/

def encodeNumber (bias place q : Nat) : List Char :=
  let t := threshold place bias
  if h : t ≤ q then
    digitOf (t + (q - t) % (36 - t)) :: encodeNumber bias (place + 36) ((q - t) / (36 - t))
  else [digitOf q]
termination_by q
decreasing_by
  have hpos := one_le_threshold place bias
  exact Nat.lt_of_le_of_lt (Nat.div_le_self _ _) (Nat.sub_lt (by omega) (by omega))

/-- What is known between two numbers: the characters placed, the bias, and the steps
since the last number. -/
structure Progress where
  placed : Nat
  bias : Nat := firstBias
  delta : Nat := 0
  isFirst : Bool := true

/-- Go over the text once for the character `n`, and write a number for each place where
it stands. -/
def encodePass (n : Nat) : List Nat → Progress → List Char × Progress
  | [], p => ([], p)
  | m :: rest, p =>
    if m < n then encodePass n rest { p with delta := p.delta + 1 }
    else if m = n then
      let bias := adapt p.delta (p.placed + 1) p.isFirst
      let (digits, after) :=
        encodePass n rest { placed := p.placed + 1, bias, isFirst := false }
      (encodeNumber p.bias 36 p.delta ++ digits, after)
    else encodePass n rest p

/-- Write the characters `pending`, which are distinct and ascend; `next` is the first
character that has not been passed. -/
def encodePasses (text : List Nat) : List Nat → Nat → Progress → List Char
  | [], _, _ => []
  | n :: pending, next, p =>
    let delta := p.delta + (n - next) * (p.placed + 1)
    let (digits, after) := encodePass n text { p with delta }
    digits ++ encodePasses text pending (n + 1) { after with delta := after.delta + 1 }

def encode (text : List Char) : List Char :=
  let codes := text.map Char.toNat
  let ascii := text.filter (·.toNat < firstCode)
  let pending := (codes.filter (firstCode ≤ ·)).mergeSort.eraseDups
  (if ascii.isEmpty then [] else ascii ++ ['-'])
    ++ encodePasses codes pending firstCode { placed := ascii.length }

/-! ### Decoding -/

/-- A number at the front, given the value of its places so far and the weight of the
next one. -/
def decodeNumber? (bias place value weight : Nat) : List Char → Option (Nat × List Char)
  | [] => none
  | c :: rest =>
    match valueOf? c with
    | none => none
    | some d =>
      let t := threshold place bias
      let value := value + d * weight
      if d < t then some (value, rest)
      else decodeNumber? bias (place + 36) value (weight * (36 - t)) rest

theorem length_of_decodeNumber? {bias place value weight n : Nat} {text rest : List Char}
    (h : decodeNumber? bias place value weight text = some (n, rest)) :
    rest.length < text.length := by
  induction text generalizing place value weight with
  | nil => simp [decodeNumber?] at h
  | cons c text ih =>
    rw [decodeNumber?] at h
    split at h
    · simp at h
    · simp only at h
      split at h
      · simp only [Option.some.injEq, Prod.mk.injEq] at h
        simp [h.2]
      · exact Nat.lt_succ_of_lt (ih h)

/-- Place characters one by one into the text `done`; `code` is the last character
placed and `index` the place after it. -/
def decodeFrom (done : List Char) (code index bias : Nat) (isFirst : Bool)
    (text : List Char) : Option (List Char) :=
  match text with
  | [] => some done
  | c :: rest =>
    match h : decodeNumber? bias 36 0 1 (c :: rest) with
    | none => none
    | some (delta, after) =>
      have hafter : after.length < (c :: rest).length := length_of_decodeNumber? h
      let size := done.length + 1
      let code := code + (index + delta) / size
      let place := (index + delta) % size
      if code.isValidChar then
        decodeFrom (done.take place ++ Char.ofNat code :: done.drop place) code
          (place + 1) (adapt delta size isFirst) false after
      else none
termination_by text.length
decreasing_by exact hafter

/-- The text before the last hyphen, and the text after it.  A hyphen at the start does
not count. -/
def cutLastHyphen (text : List Char) : List Char × List Char :=
  let after := (text.reverse.takeWhile (· != '-')).reverse
  match text.take (text.length - after.length - 1) with
  | [] => ([], text)
  | ascii => (ascii, after)

/-- Decode a text; what is not ASCII has not been encoded. -/
def decode? (text : List Char) : Option (List Char) :=
  if text.all (·.toNat < firstCode) then
    let (ascii, numbers) := cutLastHyphen text
    decodeFrom ascii firstCode 0 firstBias true numbers
  else none

end RecordFlow.Idna.Punycode
