/-!
# White space

The characters with the Unicode property `White_Space`, and the two operations on
text that depend on them.
-/

namespace RecordFlow.Text

/-- The Unicode property `White_Space`. -/
def isBlankChar (c : Char) : Bool :=
  let n := c.toNat
  (0x09 ≤ n && n ≤ 0x0D) || n == 0x20 || n == 0x85 || n == 0xA0 || n == 0x1680
    || (0x2000 ≤ n && n ≤ 0x200A) || n == 0x2028 || n == 0x2029 || n == 0x202F
    || n == 0x205F || n == 0x3000

def trimLeft (text : List Char) : List Char :=
  text.dropWhile isBlankChar

def trimRight (text : List Char) : List Char :=
  (text.reverse.dropWhile isBlankChar).reverse

def trimChars (text : List Char) : List Char :=
  trimRight (trimLeft text)

def trim (text : String) : String :=
  String.ofList (trimChars text.toList)

/-- A text of white space only, the empty text included. -/
def isBlank (text : String) : Bool :=
  text.toList.all isBlankChar

theorem isBlank_iff {text : String} :
    isBlank text = true ↔ ∀ c ∈ text.toList, isBlankChar c = true := by
  rw [isBlank, List.all_eq_true]

end RecordFlow.Text
