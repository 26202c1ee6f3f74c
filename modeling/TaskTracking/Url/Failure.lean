/-! # Failures to read a URL
-/

namespace TaskTracking.Url

inductive Failure where
  | emptyHost
  /-- The domain name cannot be one. -/
  | domain
  | port
  | ipv4
  | ipv6
  /-- A host has a character that no host can have. -/
  | hostCharacter
  /-- There is no scheme, and nothing that the text could be relative to. -/
  | relative
  /-- Nothing is relative to a URL without a path of segments. -/
  | opaqueBase
deriving DecidableEq

def Failure.text : Failure → String
  | .emptyHost => "empty host"
  | .domain => "invalid international domain name"
  | .port => "invalid port number"
  | .ipv4 => "invalid IPv4 address"
  | .ipv6 => "invalid IPv6 address"
  | .hostCharacter => "invalid domain character"
  | .relative => "relative URL without a base"
  | .opaqueBase => "relative URL with a cannot-be-a-base base"

end TaskTracking.Url
