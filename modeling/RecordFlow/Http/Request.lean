import RecordFlow.Http.Base64
import RecordFlow.Url.Basic

/-!
# HTTP requests

A request for one exchange over a connection of its own, and its bytes.
-/

namespace RecordFlow

namespace Url

/-- Host and port, as a request names them. -/
def authority (url : Url) : String :=
  let port := (url.port.map fun port => s!":{port}").getD ""
  (url.host.map Host.render).getD "" ++ port

/-- Path and query, as a request names them. -/
def target (url : Url) : String := url.renderPath ++ renderPart '?' url.query

def decodedPart? (text : String) : Option String :=
  Utf8.decode? (percentDecode (Utf8.encode text))

/-- The user name and the password in a URL, if it has either. -/
def credentials? (url : Url) : Option (String × Option String) :=
  if url.username.isEmpty && url.password.isEmpty then none
  else
    (decodedPart? url.username).map fun username =>
      (username, if url.password.isEmpty then none else decodedPart? url.password)

end Url

namespace Http

structure Request where
  method : String
  authority : String
  target : String
  headers : List (String × String)
  body : Bytes
  deriving DecidableEq, Repr

/-- The value of a header that authorizes with a user name and a password. -/
def basicAuthorization (username : String) (password : Option String) : String :=
  "Basic " ++ String.ofList (base64 (Utf8.encode (username ++ ":" ++ password.getD "")))

def headerLine (header : String × String) : String := header.1 ++ ": " ++ header.2 ++ "\r\n"

/-- The length of a body, unless it is empty. -/
def Request.lengthHeaders (request : Request) : List (String × String) :=
  if request.body.isEmpty then [] else [("content-length", toString request.body.length)]

def Request.render (request : Request) : Bytes :=
  let headers := [("host", request.authority)] ++ request.headers ++ request.lengthHeaders
    ++ [("connection", "close")]
  Utf8.encode (s!"{request.method} {request.target} HTTP/1.1\r\n"
    ++ String.join (headers.map headerLine) ++ "\r\n") ++ request.body

end Http

end RecordFlow
