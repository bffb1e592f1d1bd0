/-!
# Schemes

A scheme is special when it is one of a few that have a host and a default port; special
schemes take backslashes for slashes.  Tabs and line breaks may stand anywhere in a URL's
text and do not count.
-/

namespace RecordFlow.Url

/-- Special schemes and their default ports. -/
def specialSchemes : List (String × Option Nat) := [
  ("http", some 80), ("https", some 443), ("ws", some 80), ("wss", some 443),
  ("ftp", some 21), ("file", none)]

def isSpecialScheme (scheme : String) : Bool := (specialSchemes.lookup scheme).isSome

/-- A tab or a line break. -/
def isBreak (c : Char) : Bool := c == '\t' || c == '\n' || c == '\r'

/-- A text without its tabs and line breaks. -/
def visible (text : List Char) : List Char := text.filter (!isBreak ·)

/-- Remove controls and spaces at both ends. -/
def trimmed (text : List Char) : List Char :=
  let isEdge (c : Char) : Bool := c.toNat ≤ 0x20
  ((text.dropWhile isEdge).reverse.dropWhile isEdge).reverse

def isSchemeChar (c : Char) : Bool :=
  c.isAlphanum || c == '+' || c == '-' || c == '.'

/-- A scheme in lower case, and the text after its colon. -/
def scanScheme? (text : List Char) : Option (String × List Char) :=
  let isPart c := isSchemeChar c || isBreak c
  match text with
  | first :: _ =>
    if first.isAlpha then
      match text.dropWhile isPart with
      | ':' :: rest =>
        some (String.ofList ((visible (text.takeWhile isPart)).map Char.toLower), rest)
      | _ => none
    else none
  | [] => none

end RecordFlow.Url
