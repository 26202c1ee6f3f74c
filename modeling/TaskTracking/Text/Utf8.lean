/-! # UTF-8

  Bytes and characters. Decoding never fails: a maximal ill-formed part of the bytes
  becomes one `none`, so a text can be refused or shown with replacement characters as
  its reader needs.
-/

namespace TaskTracking.Utf8

/-- The bytes of a text. -/
def encode (text : List Char) : List UInt8 := text.flatMap String.utf8EncodeChar

/-- Where decoding stands between two bytes. -/
inductive Stage where
  /-- Between characters. -/
  | start
  /-- Inside a character: so many bytes are owed, the next one lies between the bounds, and
      `value` holds the bits read so far. -/
  | inside (owed low high value : Nat)
deriving DecidableEq

/-- A byte that begins a character, or an ill-formed part. -/
def begin (b : Nat) : List (Option Char) × Stage :=
  if b < 0x80 then ([some (Char.ofNat b)], .start)
  else if b < 0xC2 then ([none], .start)
  else if b < 0xE0 then ([], .inside 1 0x80 0xBF (b - 0xC0))
  else if b = 0xE0 then ([], .inside 2 0xA0 0xBF 0)
  else if b = 0xED then ([], .inside 2 0x80 0x9F 0xD)
  else if b < 0xF0 then ([], .inside 2 0x80 0xBF (b - 0xE0))
  else if b = 0xF0 then ([], .inside 3 0x90 0xBF 0)
  else if b < 0xF4 then ([], .inside 3 0x80 0xBF (b - 0xF0))
  else if b = 0xF4 then ([], .inside 3 0x80 0x8F 4)
  else ([none], .start)

/-- One byte: what it completes and where decoding stands after it. -/
def step (stage : Stage) (b : Nat) : List (Option Char) × Stage :=
  match stage with
  | .start => begin b
  | .inside owed low high value =>
    if low ≤ b ∧ b ≤ high then
      let value := value * 64 + (b - 0x80)
      if owed = 1 then ([some (Char.ofNat value)], .start)
      else ([], .inside (owed - 1) 0x80 0xBF value)
    else
      let (items, next) := begin b
      (none :: items, next)

def decodeFrom : Stage → List UInt8 → List (Option Char)
  | .start, [] => []
  | .inside .., [] => [none]
  | stage, b :: rest =>
    let (items, next) := step stage b.toNat
    items ++ decodeFrom next rest

/-- The characters of the bytes, `none` for each ill-formed part. -/
def decode (bytes : List UInt8) : List (Option Char) := decodeFrom .start bytes

/-- The text with a replacement character for each ill-formed part. -/
def lossy (items : List (Option Char)) : String :=
  String.ofList (items.map (·.getD '\uFFFD'))

/-- The text, if no part is ill-formed. -/
def strict (items : List (Option Char)) : Option String :=
  (items.mapM id).map String.ofList

end TaskTracking.Utf8
