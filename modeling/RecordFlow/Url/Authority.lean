import RecordFlow.Url.Basic
import RecordFlow.Url.Domain
import RecordFlow.Url.Fault
import RecordFlow.Url.Scheme

/-!
# Authorities

An authority holds credentials, a host and a port.  Colons inside brackets belong to the
host, and the last at sign ends the credentials.
-/

namespace RecordFlow.Url

/-- Where the authority ends. -/
def endsAuthority (isSpecial : Bool) (c : Char) : Bool :=
  c == '/' || c == '?' || c == '#' || (isSpecial && c == '\\')

/-- The text before the last at sign, if there is one, and the text after it. -/
def cutLastAt (text : List Char) : Option (List Char × List Char) :=
  let after := (text.reverse.takeWhile (· != '@')).reverse
  if text.contains '@' then some (text.take (text.length - after.length - 1), after)
  else none

def readUserinfo (text : List Char) : String × String :=
  let name := text.takeWhile (· != ':')
  let password := (text.dropWhile (· != ':')).drop 1
  (String.ofList (percentEncode inUserinfoSet name),
    String.ofList (percentEncode inUserinfoSet password))

/-- The host and the text after it: colons inside brackets belong to the host. -/
def cutHost (inBrackets : Bool) : List Char → List Char × List Char
  | [] => ([], [])
  | c :: rest =>
    if c == ':' && !inBrackets then ([], c :: rest)
    else
      let inside := if c == '[' then true else if c == ']' then false else inBrackets
      let (host, after) := cutHost inside rest
      (c :: host, after)

def readBracketed (text : List Char) : Except ParseFault Host :=
  if text.getLast? == some ']' then
    match parseIpv6? text.dropLast with
    | some pieces => .ok (.ipv6 pieces)
    | none => .error .invalidIpv6
  else .error .invalidIpv6

/-- Characters that the host of a scheme that is not special may not contain. -/
def isForbiddenInHost (c : Char) : Bool :=
  ['\x00', '\t', '\n', '\r', ' ', '#', '/', ':', '<', '>', '?', '@', '[', '\\', ']', '^',
    '|'].contains c

/-- The host of a special scheme: an address, or a domain in its ASCII form. -/
def readDomain (text : List Char) : Except ParseFault Host :=
  match Utf8.decode? (percentDecode (Utf8.encodeChars text)) with
  | none => .error .invalidDomain
  | some decoded =>
    match domainToAscii? decoded.toList with
    | none => .error .invalidDomain
    | some [] => .error .emptyHost
    | some domain =>
      if endsInNumber domain then
        match parseIpv4? domain with
        | some address => .ok (.ipv4 address)
        | none => .error .invalidIpv4
      else .ok (.domain (String.ofList domain))

def readHost (isSpecial : Bool) (text : List Char) : Except ParseFault Host :=
  match text with
  | '[' :: rest => readBracketed rest
  | text =>
    if isSpecial then readDomain text
    else if text.any isForbiddenInHost then .error .invalidHostCharacter
    else .ok (.domain (String.ofList (percentEncode inControlSet text)))

/-- A port after its colon; a scheme's default port is not kept. -/
def readPort (default : Option Nat) (text : List Char) : Except ParseFault (Option Nat) :=
  match digitsIn? 10 text with
  | none => .error .invalidPort
  | some port =>
    if 65535 < port then .error .invalidPort
    else if text.isEmpty || some port == default then .ok none
    else .ok (some port)

/-- The port part: nothing, or a colon and a port.  A backslash ends it; what follows is
left. -/
def readPortPart (default : Option Nat) :
    List Char → Except ParseFault (Option Nat × List Char)
  | [] => .ok (none, [])
  | _ :: text =>
    (readPort default (text.takeWhile (· != '\\'))).map fun port =>
      (port, text.dropWhile (· != '\\'))

/-- Whether a missing host is a fault: a special scheme, a port or credentials need one,
and so does an at sign with something after the authority. -/
def needsHost (isSpecial isFollowed : Bool) (userinfo? : Option (List Char))
    (portText : List Char) : Bool :=
  let (username, password) := readUserinfo (userinfo?.getD [])
  isSpecial || !portText.isEmpty || !username.isEmpty || !password.isEmpty
    || (userinfo? == some [] && isFollowed)

/-- Credentials, host and port, given a scheme that is not `file`, and the text that
belongs to the path. -/
def readAuthority (scheme : String) (isFollowed : Bool) (text : List Char) :
    Except ParseFault (Url × List Char) :=
  let isSpecial := isSpecialScheme scheme
  let cut := cutLastAt text
  let (username, password) := readUserinfo ((cut.map Prod.fst).getD [])
  let (hostText, portText) := cutHost false ((cut.map Prod.snd).getD text)
  if hostText.isEmpty && needsHost isSpecial isFollowed (cut.map Prod.fst) portText then
    .error .emptyHost
  else
    match readHost isSpecial hostText with
    | .error fault => .error fault
    | .ok host =>
      match readPortPart ((specialSchemes.lookup scheme).join) portText with
      | .error fault => .error fault
      | .ok (port, rest) =>
        .ok ({ scheme, username, password, host := some host, port, path := .segments [] },
          rest)

end RecordFlow.Url
