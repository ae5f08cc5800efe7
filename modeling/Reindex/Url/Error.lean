/-!
# Why a text is not a URL
-/

namespace Reindex

/-- The ways in which a text can fail to be a URL. -/
inductive UrlError where
  /-- There is no scheme, and nothing to resolve the text against. -/
  | relative
  /-- The scheme needs a host and there is none. -/
  | emptyHost
  /-- The port is not a number below 65536. -/
  | invalidPort
  /-- The host ends in a number but is no IPv4 address. -/
  | invalidIpv4
  /-- The host in brackets is no IPv6 address. -/
  | invalidIpv6
  | invalidDomain
  /-- The host of an unknown scheme holds a character no host can hold. -/
  | invalidHostChar
  deriving DecidableEq, Repr

def UrlError.message : UrlError → String
  | .relative => "relative URL without a base"
  | .emptyHost => "empty host"
  | .invalidPort => "invalid port number"
  | .invalidIpv4 => "invalid IPv4 address"
  | .invalidIpv6 => "invalid IPv6 address"
  | .invalidDomain => "invalid international domain name"
  | .invalidHostChar => "invalid domain character"

end Reindex
