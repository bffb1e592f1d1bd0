/-!
# Line breaks

Two operations on text that is organised in lines: replacing every line break by a
space, so that a text fits on one line, and cutting bytes into lines.
-/

namespace RecordFlow.Text

/-- Replace each CR LF pair by one space. -/
def joinBreakPairs : List Char → List Char
  | '\r' :: '\n' :: rest => ' ' :: joinBreakPairs rest
  | c :: rest => c :: joinBreakPairs rest
  | [] => []

def blankBreak (c : Char) : Char :=
  if c == '\n' || c == '\r' then ' ' else c

/-- One space for each CR LF pair, then one for each CR or LF that is left. -/
def flattenChars (text : List Char) : List Char :=
  (joinBreakPairs text).map blankBreak

def flatten (text : String) : String :=
  String.ofList (flattenChars text.toList)

/-- Put a byte in front of already cut lines: a line feed opens a new line, any other
byte belongs to the first one. -/
def consLine (b : UInt8) (lines : List (List UInt8)) : List (List UInt8) :=
  if b == 0x0A then [] :: lines
  else
    match lines with
    | [] => [[b]]
    | line :: rest => (b :: line) :: rest

/-- Cut at line feeds.  What follows the last line feed is a line of its own unless
it is empty. -/
def cutLines (bytes : List UInt8) : List (List UInt8) :=
  bytes.foldr consLine []

/-- A line without the carriage return it may end in. -/
def dropCarriageReturn (line : List UInt8) : List UInt8 :=
  if line.getLast? == some 0x0D then line.dropLast else line

end RecordFlow.Text
