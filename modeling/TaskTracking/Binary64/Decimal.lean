import TaskTracking.Binary64

/-! # Decimal texts of binary64 numbers

  The shortest decimal that reads back, and rounding to a whole number. The shortest
  decimal is found on the coarsest power-of-ten grid that has a point among the reals
  rounding to the number; of two such points the nearer is taken, and of two equally
  near ones the even.
-/

namespace TaskTracking

/-- The decimal digits of a natural. -/
def decimalDigits (n : Nat) : List Char := Nat.toDigits 10 n

namespace Binary64

/-- The decimal number `digits * 10 ^ exponent`. -/
structure Decimal where
  digits : Nat
  exponent : Int
deriving DecidableEq

/-- The best point of the grid `10 ^ k` among the reals that round to the positive finite
    `x`.

    Quarters of the last place measure the way to both ends of that interval; below a power
    of two the numbers are twice as dense. The ends belong to it when the significand is
    even. -/
def onGrid (x : Binary64) (k : Int) : Option Nat :=
  let place := Nat.pow 10 (-k).toNat <<< x.scale
  let value := x.significand * place
  let step := unit * Nat.pow 10 k.toNat
  let below := if x.significand = 1 <<< 52 ∧ 1 < x.scale then place else 2 * place
  let even := x.significand % 2 = 0
  let within (gap room : Nat) : Bool := if even then gap ≤ room else gap < room
  let floor := value / step
  let low := value - floor * step
  let high := (floor + 1) * step - value
  let lowFits := 0 < floor && within (4 * low) below
  let highFits := within (4 * high) (2 * place)
  if lowFits && highFits then
    if low < high then some floor
    else if high < low then some (floor + 1)
    else some (floor + floor % 2)
  else if lowFits then some floor
  else if highFits then some (floor + 1)
  else none

/-- Searches ever finer grids, from `10 ^ k` downwards. -/
def searchGrids (x : Binary64) : Nat → Int → Decimal
  | 0, k =>
    ⟨roundDiv (x.numerator * Nat.pow 10 (-k).toNat) (unit * Nat.pow 10 k.toNat), k⟩
  | fuel + 1, k =>
    match x.onGrid k with
    | some digits => ⟨digits, k⟩
    | none => searchGrids x fuel (k - 1)

/-- The shortest decimal that rounds to the positive finite `x`.

    The search starts above the number's leading digit; seventeen digits always suffice. -/
def shortest (x : Binary64) : Decimal :=
  let bitLength : Int := (x.numerator.log2 : Int) - unit.log2 + 1
  searchGrids x 25 (bitLength * 30103 / 100000 + 1)

/-- The finite absolute value rounded to a whole number, ties to even. -/
def roundedAbs (x : Binary64) : Nat := roundDiv x.numerator unit

/-- The whole-number text of a number; the sign of a negative one stays even on `0`. -/
def wholeText (x : Binary64) : List Char :=
  if x.isNaN then "NaN".toList
  else
    let body := if x.isFinite then decimalDigits x.roundedAbs else "inf".toList
    if x.negative then '-' :: body else body

/-- Digits with a decimal point at `point` places from their left end, filled up with zeros. -/
def placePoint (digits : List Char) (point : Int) : List Char :=
  if point ≤ 0 then '0' :: '.' :: List.replicate (-point).toNat '0' ++ digits
  else if digits.length ≤ point.toNat then
    digits ++ List.replicate (point.toNat - digits.length) '0' ++ ['.', '0']
  else digits.take point.toNat ++ '.' :: digits.drop point.toNat

/-- The shortest text without exponent; a whole number ends in `.0`. -/
def positionalText (x : Binary64) : List Char :=
  if x.isNaN then "NaN".toList
  else
    let body :=
      if !x.isFinite then "inf".toList
      else if x.magnitude = 0 then "0.0".toList
      else
        let d := x.shortest
        let digits := decimalDigits d.digits
        placePoint digits (digits.length + d.exponent)
    if x.negative then '-' :: body else body

/-- One lower-case hexadecimal digit. -/
def hexDigit (n : Nat) : Char := Nat.digitChar (n % 16)

/-- The 64 bits as sixteen hexadecimal digits. -/
def hexText (x : Binary64) : List Char :=
  (List.range 16).map fun i => hexDigit (x.bits >>> (4 * (15 - i)))

end Binary64

end TaskTracking
