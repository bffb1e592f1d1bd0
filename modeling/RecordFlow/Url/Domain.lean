import RecordFlow.Idna.Label
import RecordFlow.Idna.Mapping
import RecordFlow.Idna.Punycode
import RecordFlow.Url.Ipv4

/-!
# Domain names

The ASCII form of a domain name.  Its characters are mapped and composed, each label is
checked, and a label outside ASCII is written in Punycode after `xn--`.  A label that
already has this form must be what its own text would be written as.
-/

namespace RecordFlow.Url

/-- ASCII characters that no domain may contain. -/
def isForbiddenInDomain (c : Char) : Bool :=
  c.toNat ≤ 0x20 || c.toNat == 0x7F
    || ['%', '#', '/', ':', '<', '>', '?', '@', '[', '\\', ']', '^', '|'].contains c

def isAscii (c : Char) : Bool := c.toNat < 0x80

/-- The most characters of a label that has characters outside ASCII. -/
def maxTextLength : Nat := 1000

/-- The most characters of a label after `xn--`. -/
def maxEncodedLength : Nat := 2000

def encodedPart? : List Char → Option (List Char)
  | 'x' :: 'n' :: '-' :: '-' :: rest => some rest
  | _ => none

/-- The characters of a label, decoded if it is encoded.  What is encoded must have
characters outside ASCII, all of them mapped and composed already. -/
def labelText? (label : List Char) : Option (List Char) :=
  match encodedPart? label with
  | none => some label
  | some encoded =>
    if maxEncodedLength < encoded.length then none
    else
      match Idna.Punycode.decode? encoded with
      | none => none
      | some text =>
        if text.all isAscii || !text.all Idna.isStable || Text.composed text != text then none
        else some text

def asciiLabel (text : List Char) : List Char :=
  if text.all isAscii then text
  else ['x', 'n', '-', '-'] ++ Idna.Punycode.encode text

/-- Whether a label has to be encoded and is too long for it. -/
def isTooLong (text : List Char) : Bool := !text.all isAscii && maxTextLength < text.length

/-- The labels of a mapped domain in ASCII, if all of them are allowed. -/
def asciiLabels? (labels : List (List Char)) : Option (List (List Char)) :=
  let codes := labels.map (·.map Char.toNat)
  let isBackward := codes.any (·.any Idna.isBackward)
  if labels.any (·.any isForbiddenInDomain) || labels.any isTooLong || !codes.all Idna.isLabel
      || (isBackward && !codes.all Idna.hasOneDirection) then none
  else some (labels.map asciiLabel)

def domainToAscii? (text : List Char) : Option (List Char) := do
  let mapped ← Idna.mapText? text
  let labels ← (splitDots (Text.composed mapped)).mapM labelText?
  let ascii ← asciiLabels? labels
  pure (['.'].intercalate ascii)

end RecordFlow.Url
