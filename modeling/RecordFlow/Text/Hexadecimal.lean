/-!
# Hexadecimal numbers

Hexadecimal digits, and tables of numbers written in hexadecimal: rows are separated by
blanks, and the numbers of a row by hyphens.
-/

namespace RecordFlow.Text

def hexDigit? (c : Char) : Option Nat :=
  if '0' ≤ c && c ≤ '9' then some (c.toNat - '0'.toNat)
  else if 'a' ≤ c && c ≤ 'f' then some (c.toNat - 'a'.toNat + 10)
  else if 'A' ≤ c && c ≤ 'F' then some (c.toNat - 'A'.toNat + 10)
  else none

/-- Rows that were read, the numbers of the row being read, last one first, and the
number being read. -/
structure RowReading where
  done : Array (List Nat) := #[]
  row : List Nat := []
  number : Nat := 0

def RowReading.close (r : RowReading) : RowReading :=
  { done := r.done.push (r.number :: r.row).reverse }

def RowReading.step (r : RowReading) (c : Char) : RowReading :=
  match hexDigit? c with
  | some d => { r with number := r.number * 16 + d }
  | none => if c == '-' then { r with row := r.number :: r.row, number := 0 } else r.close

def hexRows (text : String) : Array (List Nat) :=
  (text.toList.foldl RowReading.step {}).close.done

/-- The first two numbers of a row; a single number stands for a pair of itself. -/
def pairOfRow : List Nat → Nat × Nat
  | [] => (0, 0)
  | [n] => (n, n)
  | first :: second :: _ => (first, second)

def hexPairs (text : String) : Array (Nat × Nat) := (hexRows text).map pairOfRow

end RecordFlow.Text
