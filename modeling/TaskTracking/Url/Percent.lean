import TaskTracking.Text.Utf8

/-! # Percent-encoding

  A byte is written as `%` and two hexadecimal digits where its character has a meaning
  of its own. Which characters those are depends on the part of the URL; bytes beyond
  ASCII are always encoded.
-/

namespace TaskTracking.Percent

/-- The upper-case hexadecimal digit of a number below 16. -/
def hexDigit (n : Nat) : Char := Char.ofNat (if n < 10 then 0x30 + n else 0x37 + n)

/-- The value of a hexadecimal digit of either case. -/
def hexValue? (c : Char) : Option Nat :=
  let n := c.toNat
  if 0x30 ≤ n ∧ n ≤ 0x39 then some (n - 0x30)
  else if 0x41 ≤ n ∧ n ≤ 0x46 then some (n - 0x37)
  else if 0x61 ≤ n ∧ n ≤ 0x66 then some (n - 0x57)
  else none

/-- A byte in its encoded form. -/
def escape (byte : UInt8) : List Char :=
  ['%', hexDigit (byte.toNat / 16), hexDigit (byte.toNat % 16)]

/-! ### Characters to encode -/

/-- Control characters. -/
def control (c : Char) : Bool := c.toNat < 0x20 || c.toNat = 0x7F

/-- What is encoded in a query. -/
def query (c : Char) : Bool := control c || " \"#<>".toList.contains c

/-- What is encoded in a query of a special scheme. -/
def specialQuery (c : Char) : Bool := query c || c = '\''

def fragment (c : Char) : Bool := control c || " \"<>`".toList.contains c

def path (c : Char) : Bool := fragment c || "#?\x7b\x7d".toList.contains c

def userinfo (c : Char) : Bool := path c || "/:;=@[\\]^|".toList.contains c

/-- What is encoded in a text that is to be one segment whatever it holds: all but letters,
    digits and four marks. -/
def segment (c : Char) : Bool := !(c.isAlphanum || "*-._".toList.contains c)

/-! ### Encoding and decoding -/

/-- One byte, encoded if its character is in the set. -/
def encodeByte (set : Char → Bool) (byte : UInt8) : List Char :=
  let c := Char.ofNat byte.toNat
  if byte.toNat < 0x80 ∧ !set c then [c] else escape byte

/-- The text with the characters of the set encoded. -/
def encode (set : Char → Bool) (text : List Char) : List Char :=
  (Utf8.encode text).flatMap (encodeByte set)

/-- The bytes of a text, each `%` with two digits after it read as one byte. -/
def decode : List Char → List UInt8
  | '%' :: high :: low :: rest =>
    match hexValue? high, hexValue? low with
    | some h, some l => UInt8.ofNat (h * 16 + l) :: decode rest
    | _, _ => UInt8.ofNat '%'.toNat :: decode (high :: low :: rest)
  | c :: rest => Utf8.encode [c] ++ decode rest
  | [] => []

end TaskTracking.Percent
