import RecordFlow.Text.CompositionTable

/-!
# Canonical composition

The composed normal form of text: characters are taken apart, marks are put in the
order of their combining classes, and what can be composed is composed again.  Only
characters that are composed again are taken apart, so the text must not contain the
others.
-/

namespace RecordFlow.Text

def combiningClass (n : Nat) : Nat :=
  (combiningRows.findSome? fun
    | [first, last, k] => if first ≤ n && n ≤ last then some k else none
    | _ => none).getD 0

/-! ### Syllables of Hangul -/

/-- The leading, vowel and trailing parts of a syllable, as characters. -/
def hangulParts? (n : Nat) : Option (List Nat) :=
  if 0xAC00 ≤ n && n ≤ 0xD7A3 then
    let i := n - 0xAC00
    let trailing := i % 28
    some ([0x1100 + i / 588, 0x1161 + i % 588 / 28]
      ++ if trailing = 0 then [] else [0x11A7 + trailing])
  else none

/-- The syllable of two parts. -/
def hangulComposite? (a b : Nat) : Option Nat :=
  if 0x1100 ≤ a && a ≤ 0x1112 && 0x1161 ≤ b && b ≤ 0x1175 then
    some (0xAC00 + ((a - 0x1100) * 21 + (b - 0x1161)) * 28)
  else if 0xAC00 ≤ a && a ≤ 0xD7A3 && (a - 0xAC00) % 28 == 0 && 0x11A8 ≤ b && b ≤ 0x11C2 then
    some (a + (b - 0x11A7))
  else none

/-! ### Taking apart -/

def partsOf? (n : Nat) : Option (Nat × Nat) :=
  compositeRows.findSome? fun
    | [whole, first, second] => if whole == n then some (first, second) else none
    | _ => none

/-- A character taken apart.  No character is nested deeper than `depth`. -/
def decompose : Nat → Nat → List Nat
  | 0, n => [n]
  | depth + 1, n =>
    match hangulParts? n, partsOf? n with
    | some parts, _ => parts
    | none, some (first, second) => decompose depth first ++ [second]
    | none, none => [n]

/-- Insert a mark in front of the marks with a greater combining class; `marks` are in
order, the last one first. -/
def insertMark (mark : Nat) : List Nat → List Nat
  | [] => [mark]
  | last :: marks =>
    if combiningClass mark < combiningClass last then last :: insertMark mark marks
    else mark :: last :: marks

/-- Put marks in order.  `done` is the text so far and `marks` the marks after it, both
last one first. -/
def reorder (done marks : List Nat) : List Nat → List Nat
  | [] => (marks ++ done).reverse
  | n :: rest =>
    if combiningClass n = 0 then reorder (n :: (marks ++ done)) [] rest
    else reorder done (insertMark n marks) rest

/-! ### Putting together -/

def composite? (a b : Nat) : Option Nat :=
  (hangulComposite? a b).or <| compositeRows.findSome? fun
    | [whole, first, second] => if first == a && second == b then some whole else none
    | _ => none

/-- Compose each character with the last starter before it, unless one between them
stands in the way.  `passed` are the characters after the starter, last one first, and
`top` is the combining class of the last of them. -/
def compose (done : List Nat) (starter : Option Nat) (passed : List Nat) (top : Nat) :
    List Nat → List Nat
  | [] => (passed ++ starter.toList ++ done).reverse
  | n :: rest =>
    let k := combiningClass n
    let composed? :=
      if passed.isEmpty || top < k then starter.bind fun s => composite? s n else none
    match composed? with
    | some whole => compose done (some whole) passed top rest
    | none =>
      if k = 0 then compose (passed ++ starter.toList ++ done) (some n) [] 0 rest
      else compose done starter (n :: passed) k rest

/-- The composed normal form of a text. -/
def composed (text : List Char) : List Char :=
  let parts := text.flatMap fun c => decompose 4 c.toNat
  (compose [] none [] 0 (reorder [] [] parts)).map Char.ofNat

end RecordFlow.Text
