import TaskTracking.Binary64.Decimal
import TaskTracking.Text.Quoted
import TaskTracking.Url.Failure
import TaskTracking.Url.Percent

/-! # Numeric addresses in URLs

  An IPv4 address may be written with fewer than four parts, each in decimal, octal or
  hexadecimal; an IPv6 address with its longest run of zeros left out. Both have one
  written form.
-/

namespace TaskTracking.Url

/-! ### Numbers -/

/-- The number of the digits, in the base given; none if there is anything else. -/
def digitsValue? (base : Nat) (digits : List Char) : Option Nat :=
  digits.foldlM (fun n c => do
    let d ← Percent.hexValue? c
    if d < base then some (n * base + d) else none) 0

/-- The number that a part of an IPv4 address denotes. -/
def ipv4Part? : List Char → Option Nat
  | [] => none
  | '0' :: 'x' :: digits | '0' :: 'X' :: digits => digitsValue? 16 digits
  | '0' :: c :: digits => digitsValue? 8 (c :: digits)
  | digits => digitsValue? 10 digits

/-- The text split at every character of the kind given; there is always a part. -/
def splitAll (isSeparator : Char → Bool) : List Char → List (List Char)
  | [] => [[]]
  | c :: rest =>
    if isSeparator c then [] :: splitAll isSeparator rest
    else
      match splitAll isSeparator rest with
      | part :: parts => (c :: part) :: parts
      | [] => [[c]]

/-- The parts between the dots; a dot at the end ends no part. -/
def dottedParts (text : List Char) : List (List Char) :=
  let parts := splitAll (· = '.') text
  if parts.getLast? = some [] then parts.dropLast else parts

/-- Whether a host ends in a number, so that it has to be an IPv4 address. -/
def endsInNumber (text : List Char) : Bool :=
  match (dottedParts text).getLast? with
  | some last => (!last.isEmpty && last.all Char.isDigit) || (ipv4Part? last).isSome
  | none => false

/-! ### IPv4 -/

/-- The address of the parts: all but the last are one byte each, the last fills the rest. -/
def ipv4OfParts (parts : List Nat) : Except Failure Nat :=
  match parts.getLast? with
  | none => .error .ipv4
  | some last =>
    let bytes := parts.dropLast
    let room := 8 * (4 - bytes.length)
    if 4 < parts.length ∨ bytes.any (255 < ·) ∨ 1 <<< room ≤ last then .error .ipv4
    else .ok (bytes.foldl (fun n b => n <<< 8 + b) 0 <<< room + last)

def ipv4 (text : List Char) : Except Failure Nat :=
  match (dottedParts text).mapM ipv4Part? with
  | some parts => ipv4OfParts parts
  | none => .error .ipv4

/-- The written form of an IPv4 address. -/
def ipv4Text (address : Nat) : String :=
  ".".intercalate ([3, 2, 1, 0].map fun i =>
    String.ofList (decimalDigits (address >>> (8 * i) % 256)))

/-! ### IPv6 -/

/-- A decimal byte inside an IPv6 address, which has no leading zeros. -/
def ipv6Byte? (digits : List Char) : Option Nat :=
  match digits with
  | [] => none
  | '0' :: _ :: _ => none
  | _ =>
    match digitsValue? 10 digits with
    | some n => if n ≤ 255 then some n else none
    | none => none

/-- The two pieces of a dotted IPv4 address at the end of an IPv6 address. -/
def ipv6Tail? (text : List Char) : Option (List Nat) := do
  match ← (splitAll (· = '.') text).mapM ipv6Byte? with
  | [a, b, c, d] => some [a * 256 + b, c * 256 + d]
  | _ => none

/-- A piece of an IPv6 address: one to four hexadecimal digits. -/
def ipv6Piece? (digits : List Char) : Option Nat :=
  if digits.isEmpty ∨ 4 < digits.length then none else digitsValue? 16 digits

/-- The pieces of one side of the gap; a dotted address may end the last side. -/
def ipv6Side? (isLast : Bool) (text : List Char) : Option (List Nat) :=
  if text.isEmpty then some []
  else do
    let parts := splitAll (· = ':') text
    match parts.getLast? with
    | some last =>
      if isLast && last.contains '.' then
        return (← parts.dropLast.mapM ipv6Piece?) ++ (← ipv6Tail? last)
      else parts.mapM ipv6Piece?
    | none => none

/-- The text before and after the first gap, if there is one. -/
def splitGap : List Char → Option (List Char × List Char)
  | ':' :: ':' :: rest => some ([], rest)
  | c :: rest => (splitGap rest).map fun (before, after) => (c :: before, after)
  | [] => none

/-- The eight pieces of an IPv6 address. -/
def ipv6 (text : List Char) : Except Failure (List Nat) :=
  let pieces? : Option (List Nat) :=
    match splitGap text with
    | some (before, after) => do
      let left ← ipv6Side? false before
      let right ← ipv6Side? true after
      if left.length + right.length < 8 then
        some (left ++ List.replicate (8 - left.length - right.length) 0 ++ right)
      else none
    | none => do
      let pieces ← ipv6Side? true text
      if pieces.length = 8 then some pieces else none
  match pieces? with
  | some pieces => .ok pieces
  | none => .error .ipv6

/-- How many zeros a list begins with. -/
def zeroRun (pieces : List Nat) : Nat := (pieces.takeWhile (· = 0)).length

/-- The place and the length of the first of the longest runs of zeros. -/
def longestRun (pieces : List Nat) : Nat × Nat :=
  (List.range pieces.length).foldl (fun best i =>
    let length := zeroRun (pieces.drop i)
    if best.2 < length then (i, length) else best) (0, 0)

/-- The written form of an IPv6 address: the first longest run of two or more zeros is left out. -/
def ipv6Text (pieces : List Nat) : String :=
  let side (l : List Nat) := ":".intercalate (l.map fun n => String.ofList (Text.hexDigits n))
  let (start, length) := longestRun pieces
  if 1 < length then
    "[" ++ side (pieces.take start) ++ "::" ++ side (pieces.drop (start + length)) ++ "]"
  else "[" ++ side pieces ++ "]"

end TaskTracking.Url
