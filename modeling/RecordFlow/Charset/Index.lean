/-!
# Looking up double-byte characters

An index lists the characters of a charset by pointer, with U+FFFD where there is none.
-/

namespace RecordFlow.CharsetIndex

def char? (index : Array Char) (pointer : Nat) : Option Char :=
  match index[pointer]? with
  | some c => if c == '\uFFFD' then none else some c
  | none => none

end RecordFlow.CharsetIndex
