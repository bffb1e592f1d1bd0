import RecordFlow.Url.Ipv4
import RecordFlow.Url.Ipv6
import RecordFlow.Url.Path

/-!
# URLs

The parts of an absolute URL, each already in its encoded form, and the text they make.
-/

namespace RecordFlow

namespace Url

inductive Host where
  /-- A domain, or the host of a scheme that is not special; it may be empty. -/
  | domain (name : String)
  | ipv4 (address : UInt32)
  | ipv6 (pieces : List Nat)
  deriving DecidableEq, Repr

def Host.render : Host → String
  | domain name => name
  | ipv4 address => renderIpv4 address
  | ipv6 pieces => "[" ++ renderIpv6 pieces ++ "]"

end Url

/-- An absolute URL. -/
structure Url where
  scheme : String
  username : String := ""
  password : String := ""
  host : Option Url.Host := none
  port : Option Nat := none
  /-- A dot keeps the path apart from the scheme, so that its slashes do not mark an
  authority. -/
  guarded : Bool := false
  path : Url.Path
  query : Option (List Char) := none
  fragment : Option (List Char) := none
  deriving DecidableEq, Repr

namespace Url

/-- Credentials and the mark after them. -/
def renderUserinfo (url : Url) : String :=
  if url.username.isEmpty && url.password.isEmpty then ""
  else if url.password.isEmpty then url.username ++ "@"
  else url.username ++ ":" ++ url.password ++ "@"

/-- Everything between the scheme and the path. -/
def renderAuthority (url : Url) : String :=
  match url.host with
  | some host =>
    let port :=
      match url.port with
      | some port => s!":{port}"
      | none => ""
    "//" ++ url.renderUserinfo ++ host.render ++ port
  | none => if url.guarded then "/." else ""

def renderPath (url : Url) : String :=
  match url.path with
  | .bare text => text
  | .segments parts => String.ofList (renderSegments parts)

def renderPart (mark : Char) : Option (List Char) → String
  | some text => String.ofList (mark :: text)
  | none => ""

def render (url : Url) : String :=
  url.scheme ++ ":" ++ url.renderAuthority ++ url.renderPath ++ renderPart '?' url.query
    ++ renderPart '#' url.fragment

end Url

end RecordFlow
