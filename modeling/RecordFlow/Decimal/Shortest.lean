/-!
# Shortest decimals

The fewest decimal digits that still denote a given double, and of those the nearest
to it.  A positive double is `m · 2^q`; the reals that round to it form an interval
around it, whose ends belong to it exactly when `m` is even.  On the grid of decimals
with one digit, then two, and so on, the two neighbours of the value are tested
against that interval.  All comparisons are between natural numbers.
-/

namespace RecordFlow.Decimal

/-- A decimal `digits · 10^exponent`. -/
structure Scientific where
  digits : Nat
  exponent : Int
  deriving DecidableEq, Repr

/-- A positive double `mantissa · 2^exponent`.  The gap below a power of two is half
the gap above it; `narrowBelow` says so. -/
structure Binary where
  mantissa : Nat
  exponent : Int
  narrowBelow : Bool
  deriving DecidableEq, Repr

def Binary.ofBits (bits : UInt64) : Binary :=
  let biased : Nat := (bits.toNat / Nat.pow 2 52) % 2048
  let fraction := bits.toNat % Nat.pow 2 52
  if biased == 0 then ⟨fraction, -1074, false⟩
  else ⟨Nat.pow 2 52 + fraction, (biased : Int) - 1075, fraction == 0 && 1 < biased⟩

/-- `base ^ e` for `e ≥ 0`, and 1 otherwise. -/
def powPos (base : Nat) (e : Int) : Nat := Nat.pow base e.toNat

/-- `quarters · 2^(q-2)` on the common scale of the grid `10^k`. -/
def scaledQuarters (q k : Int) (quarters : Nat) : Nat :=
  quarters * powPos 2 (q - 2) * powPos 10 (-k)

/-- `c · 10^k` on the same scale. -/
def scaledGrid (q k : Int) (c : Nat) : Nat :=
  c * powPos 10 k * powPos 2 (2 - q)

/-- Whether the grid point `c · 10^k` rounds to the double. -/
def Binary.holds (x : Binary) (k : Int) (c : Nat) : Bool :=
  let low := scaledQuarters x.exponent k (4 * x.mantissa - if x.narrowBelow then 1 else 2)
  let high := scaledQuarters x.exponent k (4 * x.mantissa + 2)
  let point := scaledGrid x.exponent k c
  if x.mantissa % 2 == 0 then low ≤ point && point ≤ high
  else low < point && point < high

/-- The nearer of the value's two neighbours on the grid `10^k` that round to it; of
two equally near ones the even one. -/
def Binary.hit? (x : Binary) (k : Int) : Option Scientific :=
  let value := scaledQuarters x.exponent k (4 * x.mantissa)
  let unit := scaledGrid x.exponent k 1
  let below := value / unit
  let twiceRest := 2 * (value % unit)
  let nearFirst :=
    if twiceRest < unit || (twiceRest == unit && below % 2 == 0) then [below, below + 1]
    else [below + 1, below]
  (nearFirst.find? fun c => c != 0 && x.holds k c).map fun c => ⟨c, k⟩

/-- The decimal exponent of the leading digit. -/
def Binary.magnitude (x : Binary) : Int :=
  let guess := ((x.mantissa.log2 : Int) + x.exponent) * 30103 / 100000
  let reaches (e : Int) : Bool :=
    scaledGrid x.exponent e 1 ≤ scaledQuarters x.exponent e (4 * x.mantissa)
  if reaches (guess + 1) then guess + 1 else if reaches guess then guess else guess - 1

/-- The shortest decimal that rounds to the double, nearest to it.  The first grid is
coarser than the value, and only the next power of ten can be hit on it. -/
def Binary.shortest (x : Binary) : Scientific :=
  let top := x.magnitude + 1
  match (List.range 18).findSome? fun (n : Nat) => x.hit? (top - (n : Int)) with
  | some found => found
  | none => ⟨x.mantissa, x.exponent⟩

/-- Which decimal exponents of the leading digit are written without an exponent. -/
structure Layout where
  positional : Int → Bool

/-- Digits with a decimal point `point` places after the first one begins; at least one
digit stands on each side. -/
def positionalText (digits : List Char) (point : Int) : List Char :=
  if point ≤ 0 then
    '0' :: '.' :: (List.replicate (-point).toNat '0' ++ digits)
  else
    let n := point.toNat
    if digits.length ≤ n then
      digits ++ List.replicate (n - digits.length) '0' ++ ['.', '0']
    else digits.take n ++ '.' :: digits.drop n

/-- One digit, the other digits after a point, and a signed exponent. -/
def exponentText (digits : List Char) (exponent : Int) : List Char :=
  let mark := if 0 ≤ exponent then ['e', '+'] else ['e', '-']
  let body :=
    match digits with
    | first :: second :: rest => first :: '.' :: second :: rest
    | short => short
  body ++ mark ++ (toString exponent.natAbs).toList

def Layout.text (layout : Layout) (x : Scientific) : List Char :=
  let digits := (toString x.digits).toList
  let leading := (digits.length : Int) - 1 + x.exponent
  if layout.positional leading then positionalText digits (leading + 1)
  else exponentText digits leading

/-- The text of a finite double in a layout; the sign of zero is kept. -/
def Layout.finite (layout : Layout) (x : Float) : String :=
  let bits := x.toBits
  let sign := if bits.toNat / Nat.pow 2 63 == 1 then ['-'] else []
  let size := bits.toNat % Nat.pow 2 63
  let body :=
    if size == 0 then ['0', '.', '0']
    else layout.text (Binary.ofBits (UInt64.ofNat size)).shortest
  String.ofList (sign ++ body)

end RecordFlow.Decimal
