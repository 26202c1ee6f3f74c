import TaskTracking.Json.Value

/-! # Numerals

  How a number of JSON text is read and written.

  Reading keeps the leading digits as long as they fit 64 bits and drops the rest into
  the exponent. An integer that fits stays an integer; everything else is the 64 bit
  significand, rounded to binary64 and then scaled by a power of ten, each with one
  rounding.

  Writing gives the shortest digits that read back: positional while the leading digit
  is worth between `10 ^ -5` and `10 ^ 15`, otherwise with a signed exponent.
-/

namespace TaskTracking.Json

/-- The parts of a numeral: its digits before and after the point and its exponent. -/
structure Numeral where
  negative : Bool
  whole : List Nat
  fraction : Option (List Nat)
  exponent : Option (Bool × List Nat)

namespace Numeral

/-- The largest significand. -/
def significandLimit : Nat := 1 <<< 64

/-- Digits taken into a significand below the limit, and those that no longer fit. -/
def accumulate (significand : Nat) : List Nat → Nat × List Nat
  | [] => (significand, [])
  | d :: rest =>
    if significand * 10 + d < significandLimit then accumulate (significand * 10 + d) rest
    else (significand, d :: rest)

/-- The written exponent, or `none` when it passes 31 bits. -/
def smallExponent (e : Nat) : List Nat → Option Nat
  | [] => some e
  | d :: rest => if e * 10 + d < 1 <<< 31 then smallExponent (e * 10 + d) rest else none

/-- A power of ten as a binary64 number. -/
def powerOfTen (k : Nat) : Binary64 := Binary64.ofNat (Nat.pow 10 k)

/-- `x * 10 ^ e`, by one scaling when the power is a number, after repeated division by the
    largest power when it is too small. `none` means out of range. -/
def scaled : Nat → Binary64 → Int → Option Binary64
  | 0, x, _ => some x
  | fuel + 1, x, e =>
    if e.natAbs ≤ 308 then
      if 0 ≤ e then
        let y := x.times (powerOfTen e.natAbs)
        if y.isFinite then some y else none
      else some (x.dividedBy (powerOfTen e.natAbs))
    else if x.magnitude = 0 then some x
    else if 0 ≤ e then none
    else scaled fuel (x.dividedBy (powerOfTen 308)) (e + 308)

/-- The number with this significand and decimal exponent. -/
def float (negative : Bool) (significand : Nat) (e : Int) : Option Number :=
  (scaled 4 (Binary64.ofNat significand) e).map fun x =>
    .float (if negative then x.neg else x)

/-- The integer, unless it is a negative zero or below 64 bits. -/
def integer (negative : Bool) (significand : Nat) : Number :=
  if !negative then .integer significand
  else if significand = 0 ∨ 1 <<< 63 < significand then
    .float (Binary64.ofNat significand).neg
  else .integer (-(significand : Int))

/-- The number that the numeral stands for; `none` means out of range. -/
def number? (n : Numeral) : Option Number :=
  let (head, dropped) := accumulate 0 n.whole
  if dropped = [] ∧ n.fraction = none ∧ n.exponent = none then some (integer n.negative head)
  else
    let digits := n.fraction.getD []
    let (significand, unused) := accumulate head digits
    let shift : Int := (dropped.length : Int) - (digits.length - unused.length : Nat)
    match n.exponent with
    | none => float n.negative significand shift
    | some (down, ds) =>
      match smallExponent 0 ds with
      | some e => float n.negative significand (if down then shift - e else shift + e)
      | none =>
        if significand ≠ 0 ∧ !down then none
        else some (.float (if n.negative then Binary64.negZero else Binary64.zero))

end Numeral

/-- The text of a finite binary64 number. -/
def floatText (x : Binary64) : List Char :=
  let body :=
    if x.magnitude = 0 then "0.0".toList
    else
      let d := x.shortest
      let digits := decimalDigits d.digits
      let point := digits.length + d.exponent
      if -5 < point ∧ point ≤ 16 then Binary64.placePoint digits point
      else
        let lead := digits.take 1
        let tail := digits.drop 1
        let mantissa := if tail.isEmpty then lead else lead ++ '.' :: tail
        let e := point - 1
        mantissa ++ 'e' :: (if e < 0 then '-' else '+') :: decimalDigits e.natAbs
  if x.negative then '-' :: body else body

/-- The text of an integer. -/
def integerText (i : Int) : List Char :=
  if i < 0 then '-' :: decimalDigits i.natAbs else decimalDigits i.natAbs

/-- The text of a number. -/
def Number.text : Number → List Char
  | .integer i => integerText i
  | .float x => floatText x

end TaskTracking.Json
