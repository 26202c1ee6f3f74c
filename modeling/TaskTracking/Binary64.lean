/-! # Binary64 numbers

  IEEE 754 double precision numbers as a sign and a 63 bit magnitude, with the
  operations that progress display and number reading need. All arithmetic is exact on
  naturals and rounded once, to the nearest number with ties to even.

  The magnitudes are ordered like the absolute values they encode, so comparing two
  numbers is comparing two integers (`Binary64.order`).
-/

namespace TaskTracking

/-- An IEEE 754 binary64 number: its sign bit and the 63 bits below. -/
structure Binary64 where
  negative : Bool
  magnitude : Nat
  magnitude_lt : magnitude < 1 <<< 63 := by decide
deriving DecidableEq

/-- A quotient rounded to the nearest natural, a tie going to the even neighbour. -/
def roundDiv (num den : Nat) : Nat :=
  let quotient := num / den
  let twice := 2 * (num % den)
  if twice < den then quotient
  else if den < twice then quotient + 1
  else quotient + quotient % 2

namespace Binary64

/-! ### Encoding -/

/-- The magnitude of the infinities; a larger one is a NaN. -/
def infinite : Nat := 2047 <<< 52

def zero : Binary64 := { negative := false, magnitude := 0 }

/-- The number 100. -/
def hundred : Binary64 := { negative := false, magnitude := 0x4059000000000000 }

def infinity : Binary64 := { negative := false, magnitude := infinite }

def negInfinity : Binary64 := { negative := true, magnitude := infinite }

def negZero : Binary64 := { negative := true, magnitude := 0 }

/-- The quiet NaN without payload. -/
def nan : Binary64 := { negative := false, magnitude := infinite + (1 <<< 51) }

instance : Inhabited Binary64 := ⟨zero⟩

def isNaN (x : Binary64) : Bool := infinite < x.magnitude

def isFinite (x : Binary64) : Bool := x.magnitude < infinite

/-- The 64 bits as one natural. -/
def bits (x : Binary64) : Nat := (if x.negative then 1 <<< 63 else 0) + x.magnitude

/-- The opposite number. -/
def neg (x : Binary64) : Binary64 := { x with negative := !x.negative }

/-- The number whose magnitude is `m`, or infinity when `m` is beyond it. -/
def ofMagnitude (negative : Bool) (m : Nat) : Binary64 where
  negative := negative
  magnitude := min m infinite
  magnitude_lt := Nat.lt_of_le_of_lt (Nat.min_le_right _ _) (by decide)

/-! ### Value

A finite number is `significand * 2 ^ scale / 2 ^ 1075` with its sign. -/

/-- The biased exponent of the last place; subnormal numbers share that of the smallest normal. -/
def scale (x : Binary64) : Nat := max 1 (x.magnitude >>> 52)

def significand (x : Binary64) : Nat :=
  if x.magnitude < 1 <<< 52 then x.magnitude
  else (1 <<< 52) + x.magnitude % (1 <<< 52)

/-- The numerator of the absolute value over `unit`. -/
def numerator (x : Binary64) : Nat := x.significand <<< x.scale

/-- The common denominator of all finite values. -/
def unit : Nat := 1 <<< 1075

/-- The place of a number that is no NaN on the line; both zeros share theirs. -/
def order (x : Binary64) : Int := if x.negative then -(x.magnitude : Int) else x.magnitude

/-- `x ≤ y`, false when either is a NaN. -/
def le (x y : Binary64) : Bool := !x.isNaN && !y.isNaN && decide (x.order ≤ y.order)

/-- `x < y`, false when either is a NaN. -/
def lt (x y : Binary64) : Bool := !x.isNaN && !y.isNaN && decide (x.order < y.order)

/-- The number brought into `[low, high]`; a number already inside is kept as it is. -/
def clamp (x low high : Binary64) : Binary64 :=
  if x.lt low then low else if high.lt x then high else x

/-! ### Rounding -/

/-- The magnitude nearest to `num / den`, ties to even, where `den` is positive.

    The scale is chosen so that the rounded significand has 53 bits, or the smallest scale
    if the quotient is too small for that. A significand that rounds up to `2 ^ 53` carries
    into the exponent by itself, as magnitudes are consecutive. -/
def nearestMagnitude (num den : Nat) : Nat :=
  if num = 0 then 0
  else
    let a := num.log2
    let b := den.log2
    let top := a + 1023 - b
    let place := max 1 (if num <<< b < den <<< a then top - 1 else top)
    roundDiv (num * unit) (den <<< place) + ((place - 1) <<< 52)

/-- The nearest number to `num / den`. -/
def ofRatio (num den : Nat) : Binary64 := ofMagnitude false (nearestMagnitude num den)

/-- The nearest number to a natural. -/
def ofNat (n : Nat) : Binary64 := ofRatio n 1

/-- The nearest number to an integer. -/
def ofInt (i : Int) : Binary64 :=
  if i < 0 then (ofNat i.natAbs).neg else ofNat i.natAbs

/-- The rounded product of two finite numbers that are not negative. -/
def times (x y : Binary64) : Binary64 := ofRatio (x.numerator * y.numerator) (unit * unit)

/-- The rounded quotient of two finite numbers that are not negative, the second not zero. -/
def dividedBy (x y : Binary64) : Binary64 := ofRatio x.numerator y.numerator

end Binary64

end TaskTracking
