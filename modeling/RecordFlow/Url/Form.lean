import RecordFlow.Url.Percent

/-!
# Form encoding

Queries of name-value pairs in the form `application/x-www-form-urlencoded`: pairs are
joined by `&`, name and value by `=`, a space is written `+`, and every other character
that is not unreserved is percent-encoded.
-/

namespace RecordFlow.Url

/-- Letters, digits and `*`, `-`, `.`, `_` stand for themselves. -/
def isFormUnreserved (c : Char) : Bool :=
  c.isAlphanum || c == '*' || c == '-' || c == '.' || c == '_'

def formChar (c : Char) : List Char :=
  if isFormUnreserved c then [c]
  else if c == ' ' then ['+']
  else percentChar c

def formEncode (text : String) : List Char := text.toList.flatMap formChar

def formPair (pair : String × String) : List Char :=
  formEncode pair.1 ++ '=' :: formEncode pair.2

/-- Append a pair to a query; a separator stands between two pairs. -/
def appendPair (query : List Char) (pair : String × String) : List Char :=
  if query.isEmpty then formPair pair else query ++ '&' :: formPair pair

def appendPairs (query : List Char) (pairs : List (String × String)) : List Char :=
  pairs.foldl appendPair query

end RecordFlow.Url
