import RecordFlow.Text.Printable

/-!
# Quoted text

A text between double quotes, as diagnostics show it: quotes, backslashes and the
usual controls take a backslash, and characters that would not show take their code
point in braces.
-/

namespace RecordFlow.Text

/-- Hexadecimal digits without leading zeros, in lower case. -/
def hexText (n : Nat) : List Char := Nat.toDigits 16 n

def quotedChar (c : Char) : List Char :=
  if c == '\x00' then ['\\', '0']
  else if c == '\t' then ['\\', 't']
  else if c == '\r' then ['\\', 'r']
  else if c == '\n' then ['\\', 'n']
  else if c == '"' then ['\\', '"']
  else if c == '\\' then ['\\', '\\']
  else if 0x20 ≤ c.toNat && c.toNat ≤ 0x7E then [c]
  else if [graphemeExtend, unprintable, fillers].any (·.contains c.toNat) then
    ['\\', 'u', '\x7b'] ++ hexText c.toNat ++ ['\x7d']
  else [c]

def quoted (text : String) : String :=
  String.ofList ('"' :: (text.toList.flatMap quotedChar ++ ['"']))

end RecordFlow.Text
