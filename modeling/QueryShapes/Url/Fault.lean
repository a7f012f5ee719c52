/-!
# Faults of URLs
-/

namespace QueryShapes

/-- Why a text is no URL. -/
inductive UrlFault
  | noScheme
  | emptyHost
  | port
  | ipv4Address
  | ipv6Address
  | domainCharacter
  | internationalName
deriving DecidableEq

def UrlFault.message : UrlFault → String
  | noScheme => "relative URL without a base"
  | emptyHost => "empty host"
  | port => "invalid port number"
  | ipv4Address => "invalid IPv4 address"
  | ipv6Address => "invalid IPv6 address"
  | domainCharacter => "invalid domain character"
  | internationalName => "invalid international domain name"

end QueryShapes
