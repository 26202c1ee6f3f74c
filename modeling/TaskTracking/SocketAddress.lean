import TaskTracking.Failure
import TaskTracking.Url.Parser

/-! # Addresses of WebSockets

  What is found wrong with the address of a push endpoint before a connection is tried.
-/

namespace TaskTracking.SocketFailure

/-- Whether the character can stand in an authority. -/
def isAuthorityChar (c : Char) : Bool := c.isAlphanum || "!$&'()*+,-.:;=@[]_~".toList.contains c

/-- The text after the last `@`. -/
def afterUser (authority : List Char) : List Char :=
  (authority.reverse.takeWhile (· ≠ '@')).reverse

/-- The text after the brackets of a numeric address. -/
def afterBrackets (host : List Char) : List Char :=
  (host.reverse.takeWhile (· ≠ ']')).reverse

/-- What is wrong with an authority. Only a user may be percent-encoded. -/
def authorityFault? (authority : List Char) : Option AddressFault :=
  let host := afterUser authority
  let tail := afterBrackets host
  if authority.any fun c => c ≠ '%' ∧ !isAuthorityChar c then some .character
  else if 1 < tail.count ':' ∨ tail.contains '%' ∨ (host.isEmpty ∧ !authority.isEmpty) then
    some .authority
  else none

/-- Whether the text ends in a port number. -/
def endsInPort (authority : List Char) : Bool :=
  match (afterBrackets (afterUser authority)).dropWhile (· ≠ ':') with
  | _ :: c :: rest => (Url.digitsValue? 10 (c :: rest)).any (· ≤ 65535)
  | _ => false

/-- Why no connection to the URL is tried, if so. Of a URL without authority everything
    after the scheme's beginning is taken for one. -/
def ofAddress? (u : Url) : Option SocketFailure :=
  let (authority, rest) := match u.authority with
    | some a => (a.text.toList, [])
    | none => u.text.toList.span fun c => c ≠ '/' ∧ c ≠ '?' ∧ c ≠ '#'
  match authorityFault? authority with
  | some fault => some (.malformedAddress fault)
  | none =>
    if authority.isEmpty ∨ !rest.isEmpty then some (.malformedAddress .format)
    else if u.scheme = "ws" ∨ u.scheme = "wss" ∨ endsInPort authority then none
    else some .unsupportedScheme

end TaskTracking.SocketFailure
