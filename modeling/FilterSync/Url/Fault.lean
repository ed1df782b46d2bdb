/-!
# Faults of URLs

The reasons why a text is no URL.
-/

namespace FilterSync.Url

/-- Why a text is no URL. -/
inductive Fault
  /-- It has no scheme. -/
  | noScheme
  | emptyHost
  | badPort
  | badIpv4
  | badIpv6
  /-- A host that is kept as it is written holds a forbidden character. -/
  | badHostChar
  /-- A domain name holds a forbidden character or a label that encodes nothing. -/
  | badDomain
  deriving DecidableEq, Repr

/-- The text of a fault. -/
def Fault.message : Fault → String
  | noScheme => "relative URL without a base"
  | emptyHost => "empty host"
  | badPort => "invalid port number"
  | badIpv4 => "invalid IPv4 address"
  | badIpv6 => "invalid IPv6 address"
  | badHostChar => "invalid domain character"
  | badDomain => "invalid international domain name"

end FilterSync.Url
