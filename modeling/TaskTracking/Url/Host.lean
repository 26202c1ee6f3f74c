import TaskTracking.Url.Address

/-! # Hosts
-/

namespace TaskTracking.Url

/-- Characters that no domain name has. -/
def forbiddenInDomain (c : Char) : Bool :=
  c.toNat ≤ 0x20 || c.toNat = 0x7F || "%#/:<>?@[\\]^|".toList.contains c

/-- Characters that no host has, of whatever scheme. -/
def forbiddenInHost (c : Char) : Bool := "\x00\t\n\r #/:<>?@[\\]^|".toList.contains c

/-- A host in brackets. -/
def bracketed (text : List Char) : Except Failure String :=
  if text.getLast? = some ']' then (ipv6 (text.drop 1).dropLast).map ipv6Text
  else .error .ipv6

/-- The written form of a domain name of ASCII characters, or of the address that it is. -/
def domain (text : List Char) : Except Failure String :=
  match Utf8.strict (Utf8.decode (Percent.decode text)) with
  | none => .error .domain
  | some decoded =>
    let name := decoded.toList.map Char.toLower
    if name.any fun c => 0x80 ≤ c.toNat || forbiddenInDomain c then .error .domain
    else if name.isEmpty then .error .emptyHost
    else if endsInNumber name then (ipv4 name).map ipv4Text
    else .ok (String.ofList name)

/-- The written form of a host of a special scheme. -/
def specialHost (text : List Char) : Except Failure String :=
  match text with
  | [] => .error .emptyHost
  | '[' :: _ => bracketed text
  | _ => domain text

/-- The written form of a host of any other scheme, which may be empty. -/
def otherHost (text : List Char) : Except Failure String :=
  match text with
  | '[' :: _ => bracketed text
  | _ =>
    if text.any forbiddenInHost then .error .hostCharacter
    else .ok (String.ofList (Percent.encode Percent.control text))

end TaskTracking.Url
