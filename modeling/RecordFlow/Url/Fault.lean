/-!
# Faults of URLs

Each fault is one reason why a text is no absolute URL.
-/

namespace RecordFlow.Url

/-- Why a text is no absolute URL. -/
inductive ParseFault where
  /-- There is no scheme. -/
  | relative
  | emptyHost
  | invalidDomain
  | invalidHostCharacter
  | invalidPort
  | invalidIpv4
  | invalidIpv6
  deriving DecidableEq, Repr

def ParseFault.message : ParseFault → String
  | relative => "relative URL without a base"
  | emptyHost => "empty host"
  | invalidDomain => "invalid international domain name"
  | invalidHostCharacter => "invalid domain character"
  | invalidPort => "invalid port number"
  | invalidIpv4 => "invalid IPv4 address"
  | invalidIpv6 => "invalid IPv6 address"

end RecordFlow.Url
