import TaskTracking.Json.Value
import TaskTracking.Url.Percent

/-! # Scalars in TOML

  Numbers, truth values, dates and times. A date or time is only recognised; it becomes
  an object, so that no decoder takes it for anything else.
-/

namespace TaskTracking.Toml

open Json (Value)

/-! ### Digits -/

/-- The digits of a number without the underscores between them. -/
def withoutUnderscores (isDigit : Char → Bool) : List Char → Option (List Char)
  | [c] => if isDigit c then some [c] else none
  | c :: '_' :: rest =>
    if isDigit c then (withoutUnderscores isDigit rest).map (c :: ·) else none
  | c :: rest => if isDigit c then (withoutUnderscores isDigit rest).map (c :: ·) else none
  | [] => none

/-- The number of the digits in the base given. -/
def numberOf (base : Nat) (digits : List Char) : Nat :=
  digits.foldl (fun n c => n * base + (Percent.hexValue? c).getD 0) 0

/-- The number of digits that may be divided by underscores. -/
def natural? (base : Nat) (text : List Char) : Option Nat :=
  (withoutUnderscores (fun c => (Percent.hexValue? c).any (· < base)) text).map (numberOf base)

/-- Sign and rest of a number. -/
def splitSign : List Char → Bool × List Char
  | '-' :: rest => (true, rest)
  | '+' :: rest => (false, rest)
  | text => (false, text)

/-- A whole part, which has no leading zeros. -/
def whole? : List Char → Option (List Char)
  | '0' :: _ :: _ => none
  | text => withoutUnderscores Char.isDigit text

/-! ### Integers -/

def integer? (text : List Char) : Option Int :=
  match text with
  | '0' :: 'x' :: digits => (natural? 16 digits).map Int.ofNat
  | '0' :: 'o' :: digits => (natural? 8 digits).map Int.ofNat
  | '0' :: 'b' :: digits => (natural? 2 digits).map Int.ofNat
  | _ =>
    let (negative, digits) := splitSign text
    (whole? digits).map fun digits =>
      let n := numberOf 10 digits
      if negative then -(n : Int) else n

/-- Whether 128 bits hold the integer, with or without a sign. -/
def isHeld (i : Int) : Bool :=
  if i < 0 then i.natAbs ≤ 1 <<< 127 else i.natAbs < 1 <<< 128

/-- Whether the integer is one that every reader of the format must take. -/
def isPortable (i : Int) : Bool :=
  if i < 0 then i.natAbs ≤ 1 <<< 63 else i.natAbs < 1 <<< 63

/-! ### Floats -/

/-- The number nearest to `significand * 10 ^ exponent`, unless it is too large. -/
def nearest? (significand : Nat) (exponent : Int) : Option Binary64 :=
  let digits : Int := (decimalDigits significand).length
  if significand = 0 ∨ digits + exponent < -400 then some .zero
  else if 400 < digits + exponent then none
  else
    let x :=
      Binary64.ofRatio (significand * Nat.pow 10 exponent.toNat) (Nat.pow 10 (-exponent).toNat)
    if x.isFinite then some x else none

/-- The exponent of a float. -/
def exponent? (text : List Char) : Option Int := do
  let (negative, digits) := splitSign text
  let n ← natural? 10 digits
  return if negative then -(n : Int) else n

/-- A float without its sign. -/
def unsignedFloat? (text : List Char) : Option Binary64 := do
  let isMark (c : Char) := c = 'e' || c = 'E'
  let mantissa := text.takeWhile fun c => !isMark c
  let tail := text.dropWhile fun c => !isMark c
  let wholePart ← whole? (mantissa.takeWhile (· ≠ '.'))
  let fraction ←
    match mantissa.dropWhile (· ≠ '.') with
    | _ :: digits => withoutUnderscores Char.isDigit digits
    | [] => some []
  let exponent ←
    match tail with
    | _ :: digits => exponent? digits
    | [] => if fraction.isEmpty then none else some 0
  nearest? (numberOf 10 (wholePart ++ fraction)) (exponent - fraction.length)

def float? (text : List Char) : Option Binary64 :=
  let (negative, body) := splitSign text
  let x? :=
    if body = "inf".toList then some .infinity
    else if body = "nan".toList then some .nan
    else unsignedFloat? body
  x?.map fun x => if negative then x.neg else x

/-! ### Dates and times -/

/-- The number of two digits. -/
def pair? (a b : Char) : Option Nat :=
  if a.isDigit && b.isDigit then some (numberOf 10 [a, b]) else none

def daysOf (year month : Nat) : Nat :=
  if month = 2 then
    if year % 4 = 0 ∧ (year % 100 ≠ 0 ∨ year % 400 = 0) then 29 else 28
  else if month = 4 ∨ month = 6 ∨ month = 9 ∨ month = 11 then 30
  else 31

/-- What follows a date. -/
def date? : List Char → Option (List Char)
  | a :: b :: c :: d :: '-' :: e :: f :: '-' :: g :: h :: rest => do
    let year := (← pair? a b) * 100 + (← pair? c d)
    let month ← pair? e f
    let day ← pair? g h
    guard (1 ≤ month ∧ month ≤ 12 ∧ 1 ≤ day ∧ day ≤ daysOf year month)
    return rest
  | _ => none

/-- What follows a fraction of a second. -/
def fraction? : List Char → Option (List Char)
  | '.' :: c :: rest => if c.isDigit then some (rest.dropWhile Char.isDigit) else none
  | '.' :: [] => none
  | rest => some rest

/-- What follows a time; its seconds may be left out. -/
def time? : List Char → Option (List Char)
  | a :: b :: ':' :: c :: d :: rest => do
    guard ((← pair? a b) ≤ 23 ∧ (← pair? c d) ≤ 59)
    match rest with
    | ':' :: e :: f :: rest => do
      guard ((← pair? e f) ≤ 60)
      fraction? rest
    | _ => some rest
  | _ => none

/-- Whether the text is empty or a distance from universal time. -/
def isOffset : List Char → Bool
  | [] => true
  | ['Z'] | ['z'] => true
  | [sign, a, b, ':', c, d] =>
    (sign = '+' || sign = '-') && (pair? a b).any (· ≤ 23) && (pair? c d).any (· ≤ 59)
  | _ => false

/-- Whether the text is a date, a time, or both. -/
def isMoment (text : List Char) : Bool :=
  match date? text with
  | some [] => true
  | some (mark :: rest) => (mark = 'T' || mark = 't' || mark = ' ') && (time? rest).any isOffset
  | none => time? text = some []

/-- A date or time as a value. -/
def moment (text : List Char) : Value := .object [("date-time", .string (String.ofList text))]

/-! ### Scalars -/

/-- The value of a text without quotes. -/
def scalar? (text : List Char) : Option Value :=
  if text = "true".toList then some (.bool true)
  else if text = "false".toList then some (.bool false)
  else if isMoment text then some (moment text)
  else
    match integer? text with
    | some i => if isHeld i then some (.number (.integer i)) else none
    | none => (float? text).map fun x => .number (.float x)

end TaskTracking.Toml
