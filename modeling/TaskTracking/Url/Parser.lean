import TaskTracking.Url.Host
import TaskTracking.Url.Path

/-! # URLs

  Reading a URL brings it into its one written form: scheme and host in lower case, the
  scheme's own port left out, dots in the path resolved, and all that needs it
  percent-encoded.

  The schemes `http`, `https`, `ws`, `wss`, `ftp` and `file` are special: they always
  have a host and a path, and read a backslash as a slash.
-/

namespace TaskTracking

/-- What a URL has between its scheme and its path. -/
structure Url.Authority where
  user : String := ""
  password : String := ""
  host : String := ""
  port : Option Nat := none
deriving DecidableEq

structure Url where
  scheme : String
  authority : Option Url.Authority := none
  path : Url.Path
  query : Option String := none
  fragment : Option String := none
deriving DecidableEq

namespace Url

/-! ### Schemes -/

/-- The special schemes other than `file`, with their own ports. -/
def ports : List (String × Nat) :=
  [("http", 80), ("https", 443), ("ws", 80), ("wss", 443), ("ftp", 21)]

def isSpecial (scheme : String) : Bool := scheme = "file" || (ports.lookup scheme).isSome

def isSchemeChar (c : Char) : Bool := c.isAlphanum || c = '+' || c = '-' || c = '.'

/-- The scheme in lower case and the text after its colon. -/
def splitScheme (text : List Char) : Option (String × List Char) :=
  match text.span isSchemeChar with
  | (c :: name, ':' :: rest) =>
    if c.isAlpha then some (String.ofList ((c :: name).map Char.toLower), rest) else none
  | _ => none

/-! ### Parts of the text -/

/-- A slash, also in the form that only special schemes know. -/
def isSlash (special : Bool) (c : Char) : Bool := c = '/' || (special && c = '\\')

/-- Where the authority ends. -/
def endsAuthority (special : Bool) (c : Char) : Bool := isSlash special c || c = '?' || c = '#'

/-- The text before the last `@`, if there is one, and the text after it. -/
def splitUser (text : List Char) : Option (List Char) × List Char :=
  if text.contains '@' then
    let reversed := text.reverse
    (some (reversed.dropWhile (· ≠ '@') |>.drop 1).reverse,
      (reversed.takeWhile (· ≠ '@')).reverse)
  else (none, text)

/-- User and password, divided by the first colon. -/
def userAndPassword (text : List Char) : String × String :=
  let encode (t : List Char) := String.ofList (Percent.encode Percent.userinfo t)
  (encode (text.takeWhile (· ≠ ':')), encode ((text.dropWhile (· ≠ ':')).drop 1))

/-- The host and what follows it; a colon inside brackets does not end it. -/
def splitHost (special : Bool) (inside : Bool) : List Char → List Char × List Char
  | [] => ([], [])
  | c :: rest =>
    if endsAuthority special c || (c = ':' && !inside) then ([], c :: rest)
    else
      let inside := if c = '[' then true else if c = ']' then false else inside
      let (host, rest) := splitHost special inside rest
      (c :: host, rest)

/-- The port and what follows it; the scheme's own port is none. -/
def splitPort (scheme : String) (text : List Char) : Except Failure (Option Nat × List Char) :=
  let digits := text.takeWhile Char.isDigit
  let rest := text.dropWhile Char.isDigit
  let ended := match rest with
    | [] => true
    | c :: _ => endsAuthority true c
  match digitsValue? 10 digits with
  | some port =>
    if 65535 < port ∨ !ended then .error .port
    else if digits.isEmpty ∨ ports.lookup scheme = some port then .ok (none, rest)
    else .ok (some port, rest)
  | none => .error .port

/-- The authority and what follows it. -/
def splitAuthority (scheme : String) (text : List Char) :
    Except Failure (Authority × List Char) := do
  let special := isSpecial scheme
  let section_ := text.takeWhile fun c => !endsAuthority special c
  let (user?, _) := splitUser section_
  let afterUser := match user? with
    | some user => text.drop (user.length + 1)
    | none => text
  if user? = some [] ∧ afterUser.head?.any (endsAuthority special) then throw .emptyHost
  let (user, password) := userAndPassword (user?.getD [])
  let (hostText, rest) := splitHost special false afterUser
  let host ← if special then specialHost hostText else otherHost hostText
  let (port, rest) ←
    match rest with
    | ':' :: rest => if host = "" then throw .emptyHost else splitPort scheme rest
    | _ => pure (none, rest)
  if host = "" ∧ (user ≠ "" ∨ password ≠ "") then throw .emptyHost
  return ({ user, password, host, port }, rest)

/-- The path text, the query and the fragment. -/
def splitTail (special : Bool) (text : List Char) :
    List Char × Option String × Option String :=
  let ends (c : Char) := c = '?' || c = '#'
  let path := text.takeWhile fun c => !ends c
  let tail := text.dropWhile fun c => !ends c
  let querySet := if special then Percent.specialQuery else Percent.query
  let written (set : Char → Bool) (t : List Char) := String.ofList (Percent.encode set t)
  match tail with
  | '?' :: tail =>
    let query := written querySet (tail.takeWhile (· ≠ '#'))
    match tail.dropWhile (· ≠ '#') with
    | _ :: fragment => (path, some query, some (written Percent.fragment fragment))
    | [] => (path, some query, none)
  | _ :: fragment => (path, none, some (written Percent.fragment fragment))
  | [] => (path, none, none)

/-- The written segments of a path; a slash in front of the first one is no part of them. -/
def writtenSegments (special : Bool) (path : List Char) : List (List Char) :=
  match path with
  | c :: rest => splitAll (isSlash special) (if isSlash special c then rest else path)
  | [] => [[]]

/-! ### Reading -/

/-- A URL with an authority and the rest of its text. -/
def withAuthority (scheme : String) (text : List Char) : Except Failure Url := do
  let special := isSpecial scheme
  let (authority, rest) ← splitAuthority scheme text
  let (path, query, fragment) := splitTail special rest
  let segments :=
    if path.isEmpty && !special then [] else resolve false [] (writtenSegments special path)
  return { scheme, authority := some authority, path := .segments segments, query, fragment }

/-- A URL of a scheme that is not special. -/
def other (scheme : String) (text : List Char) : Except Failure Url :=
  match text with
  | '/' :: '/' :: rest => withAuthority scheme rest
  | _ =>
    let (path, query, fragment) := splitTail false text
    let path := match path with
      | '/' :: _ => Path.segments (resolve false [] (writtenSegments false path))
      | _ => Path.plain (String.ofList (Percent.encode Percent.control path))
    .ok { scheme, path, query, fragment }

/-- The host of a file and what follows it; a drive is no host. -/
def splitFileHost (text : List Char) : Except Failure (String × List Char) :=
  let host := text.takeWhile fun c => !endsAuthority true c
  let rest := text.dropWhile fun c => !endsAuthority true c
  if isDrive host then .ok ("", text)
  else if host.isEmpty then .ok ("", rest)
  else (specialHost host).map fun host => (if host = "localhost" then "" else host, rest)

/-- The URL of a file. On a drive it has no host. -/
def file (text : List Char) : Except Failure Url := do
  let (host, rest) ←
    match text with
    | a :: b :: rest =>
      if isSlash true a && isSlash true b then splitFileHost rest else pure ("", text)
    | _ => pure ("", text)
  let (path, query, fragment) := splitTail true rest
  let segments := resolve true [] (writtenSegments true path)
  let onDrive := segments.head?.any fun s => isDrive s.toList
  return {
    scheme := "file"
    authority := some { host := if onDrive then "" else host }
    path := .segments segments
    query, fragment }

/-- The text without spaces and controls around it, and without tabs and line ends. -/
def cleaned (text : String) : List Char :=
  let outside (c : Char) := c.toNat ≤ 0x20
  let trimmed := ((text.toList.dropWhile outside).reverse.dropWhile outside).reverse
  trimmed.filter fun c => c ≠ '\t' ∧ c ≠ '\n' ∧ c ≠ '\r'

/-- Reads a URL. -/
def parse (text : String) : Except Failure Url :=
  match splitScheme (cleaned text) with
  | none => .error .relative
  | some (scheme, rest) =>
    if scheme = "file" then file rest
    else if isSpecial scheme then withAuthority scheme (rest.dropWhile (isSlash true))
    else other scheme rest

/-- The URL that a path relative to the given one leads to. The path has no scheme and no query. -/
def join (base : Url) (relative : String) : Except Failure Url :=
  match base.path with
  | .plain _ => .error .opaqueBase
  | .segments list =>
    let segments := resolve (base.scheme = "file") list.dropLast
      (splitAll (isSlash (isSpecial base.scheme)) relative.toList)
    .ok { base with path := .segments segments, query := none, fragment := none }

/-! ### Writing -/

def Authority.text (a : Authority) : String :=
  let password := if a.password = "" then "" else ":" ++ a.password
  let userinfo := if a.user = "" ∧ a.password = "" then "" else a.user ++ password ++ "@"
  let port := match a.port with
    | some port => ":" ++ String.ofList (decimalDigits port)
    | none => ""
  userinfo ++ a.host ++ port

/-- The written form of a URL. A path that begins with two slashes does not pass for an
    authority. -/
def text (u : Url) : String :=
  let before := match u.authority, u.path with
    | some a, _ => "//" ++ a.text
    | none, .segments ("" :: _ :: _) => "/."
    | none, _ => ""
  let query := match u.query with
    | some query => "?" ++ query
    | none => ""
  let fragment := match u.fragment with
    | some fragment => "#" ++ fragment
    | none => ""
  u.scheme ++ ":" ++ before ++ u.path.text ++ query ++ fragment

end Url

end TaskTracking
