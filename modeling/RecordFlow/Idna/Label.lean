import RecordFlow.Idna.Properties
import RecordFlow.Text.Composition

/-!
# Labels

What the labels of a domain name must observe once they are mapped: no label starts
with a mark, joiners stand only where they show, and in a name with characters written
from right to left each label has one direction.
-/

namespace RecordFlow.Idna

/-! ### Joiners -/

/-- The joiner that shows joined forms. -/
def zeroWidthJoiner : Nat := 0x200D

/-- The joiner that prevents joined forms. -/
def zeroWidthNonJoiner : Nat := 0x200C

/-- Signs that make a conjunct of two consonants, by their combining class. -/
def isVirama (n : Nat) : Bool := Text.combiningClass n == 9

/-- Whether the next character that joining does not pass through joins towards the
place where it is seen from. -/
def joins (joining : Text.CodeRanges) (text : List Nat) : Bool :=
  match text.dropWhile joiningThrough.contains with
  | [] => false
  | n :: _ => joiningBoth.contains n || joining.contains n

/-- Every joiner stands after a virama, or, if it prevents joining, between characters
that would join.  `before` is the text so far, last character first. -/
def joinersShow (before : List Nat) : List Nat → Bool
  | [] => true
  | n :: rest =>
    let afterVirama := before.head?.any isVirama
    let allowed :=
      if n = zeroWidthJoiner then afterVirama
      else if n = zeroWidthNonJoiner then
        afterVirama || (joins joiningAfter before && joins joiningBefore rest)
      else true
    allowed && joinersShow (n :: before) rest

/-! ### Direction -/

inductive Direction where
  | leftToRight
  | rightToLeft
  | arabicNumber
  | europeanNumber
  /-- A mark that takes the direction of what it stands on. -/
  | mark
  /-- No direction of its own. -/
  | none
  deriving DecidableEq, Repr

/-- The direction of a character; ASCII has letters, digits and characters without
direction. -/
def directionOf (n : Nat) : Direction :=
  if n < 0x80 then
    let c := Char.ofNat n
    if c.isAlpha then .leftToRight else if c.isDigit then .europeanNumber else .none
  else if rightToLeft.contains n then .rightToLeft
  else if arabicNumbers.contains n then .arabicNumber
  else if europeanNumbers.contains n then .europeanNumber
  else if nonspacing.contains n then .mark
  else if undirected.contains n then .none
  else .leftToRight

/-- Characters that give a name two directions. -/
def isBackward (n : Nat) : Bool :=
  directionOf n == .rightToLeft || directionOf n == .arabicNumber

/-- Whether a label has one direction: that of its first character, which must be
strong.  Marks at the end do not count as its end. -/
def hasOneDirection (label : List Nat) : Bool :=
  let directions := label.map directionOf
  let last? := (directions.reverse.dropWhile (· == .mark)).head?
  match directions.head? with
  | .none => true
  | some .leftToRight =>
    directions.all (fun d => d != .rightToLeft && d != .arabicNumber)
      && last?.any (fun d => d == .leftToRight || d == .europeanNumber)
  | some .rightToLeft =>
    directions.all (· != .leftToRight)
      && last?.any (fun d => d == .rightToLeft || d == .arabicNumber || d == .europeanNumber)
      && !(directions.contains .arabicNumber && directions.contains .europeanNumber)
  | some _ => false

/-! ### Labels -/

/-- A label that may stand in a name, direction aside. -/
def isLabel (label : List Nat) : Bool :=
  !label.head?.any marks.contains && joinersShow [] label

end RecordFlow.Idna
