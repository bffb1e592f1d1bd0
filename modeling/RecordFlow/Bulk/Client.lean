import RecordFlow.Bulk.Config
import RecordFlow.Bulk.Reply
import RecordFlow.Http.Request

/-!
# Bulk requests over HTTP

A payload is put to the endpoint.  Credentials in the URL go before those in the
settings, and settings without a user name give none.
-/

namespace RecordFlow.Bulk

/-- The credentials of a request. -/
def Config.credentials? (config : Config) (url : Url) : Option (String × Option String) :=
  url.credentials?.or <|
    (config.username.filter (!·.isEmpty)).map fun username => (username, config.password)

def Config.httpRequest (config : Config) (url : Url) (payload : String) : Http.Request where
  method := "PUT"
  authority := url.authority
  target := url.target
  headers := [("content-type", "application/x-ndjson")]
    ++ ((config.credentials? url).map fun (username, password) =>
      ("authorization", Http.basicAuthorization username password)).toList
    ++ [("accept", "*/*")]
  body := Utf8.encode payload

def unanswered (detail : String) : Submission := .transportError s!"bulk request: {detail}"

/-- How a submission ended, given the bytes that came back. -/
def submissionOf : Except String Bytes → Submission
  | .error detail => unanswered detail
  | .ok bytes =>
    match Http.Reply.ofBytes? bytes with
    | some reply => .reply reply
    | none => unanswered "invalid reply"

end RecordFlow.Bulk
