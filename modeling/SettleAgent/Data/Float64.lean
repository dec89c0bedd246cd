import Mathlib.Data.Nat.Log
import Mathlib.Data.Int.Bitwise

/-!
# Machine numbers

Signed 64-bit integers are integers reduced into `[-2^63, 2^63)` wherever an
operation can leave that range.  A finite binary64 number is an integer
significand of at most 53 bits scaled by a power of two; numbers decoded from
JSON are always finite.
-/

namespace SettleAgent

/-- Reduce an integer into the range of a signed 64-bit integer. -/
def wrap64 (value : Int) : Int :=
  (value + 2 ^ 63) % 2 ^ 64 - 2 ^ 63

/-- The finite binary64 number `significand * 2 ^ exponent`. -/
structure Float64 where
  significand : Int
  exponent : Int
  fits : significand.natAbs < 2 ^ 53
  deriving DecidableEq

namespace Float64

/-- Halve toward the nearest integer `shift` times at once, ties to even. -/
def roundShift (magnitude shift : Nat) : Nat :=
  let quotient := magnitude / 2 ^ shift
  let remainder := magnitude % 2 ^ shift
  if 2 * remainder > 2 ^ shift then quotient + 1
  else if 2 * remainder = 2 ^ shift then quotient + quotient % 2
  else quotient

/-- The nearest number with a significand of 53 bits, ties to even.  Numbers are
given by significand and exponent, and exponents are not bounded. -/
def round (significand exponent : Int) : Int × Int :=
  let excess := significand.natAbs.size - 53
  (significand.sign * (roundShift significand.natAbs excess : Nat),
    exponent + excess)

/-- The exact sum with one half. -/
def plusHalf (significand exponent : Int) : Int × Int :=
  if 0 ≤ exponent then (significand * 2 ^ (exponent + 1).toNat + 1, -1)
  else (significand + 2 ^ (-1 - exponent).toNat, exponent)

/-- The integer part of `significand * 2 ^ exponent`, rounded toward zero. -/
def truncate (significand exponent : Int) : Int :=
  if 0 ≤ exponent then significand * 2 ^ exponent.toNat
  else significand.sign * (significand.natAbs / 2 ^ (-exponent).toNat : Nat)

/-- Conversion of an integral value to `int64`.  Go leaves out-of-range
conversions to the implementation; amd64 delivers the smallest integer. -/
def clampInt64 (value : Int) : Int :=
  if -2 ^ 63 ≤ value ∧ value < 2 ^ 63 then value else -2 ^ 63

/-- The conversion `int64(x)`. -/
def toInt64 (x : Float64) : Int :=
  clampInt64 (truncate x.significand x.exponent)

/-- The conversion `int64(x * 100)`: the product is rounded before it is
truncated. -/
def centsOfDollars (x : Float64) : Int :=
  let product := round (100 * x.significand) x.exponent
  clampInt64 (truncate product.1 product.2)

/-- The conversion `int(x*factor + 0.5)`.  Product and sum are rounded one after
the other; one that overflows is out of range for the conversion as well. -/
def timesPlusHalf (x : Float64) (factor : Int) : Int :=
  let product := round (factor * x.significand) x.exponent
  let exact := plusHalf product.1 product.2
  let sum := round exact.1 exact.2
  clampInt64 (truncate sum.1 sum.2)

/-- Whether the exact product with a factor is below a bound. -/
def timesBelow (x : Float64) (factor bound : Int) : Bool :=
  decide (factor * x.significand * 2 ^ x.exponent.toNat <
    bound * 2 ^ (-x.exponent).toNat)

/-- Whether the number is below one half. -/
def ltHalf (x : Float64) : Bool :=
  if 0 ≤ x.exponent then decide (x.significand ≤ 0)
  else decide (2 * x.significand < 2 ^ (-x.exponent).toNat)

/-- The decimal text with two digits after the point, as `%.2f` prints it. -/
def toFixed2 (x : Float64) : String :=
  let magnitude := 100 * x.significand.natAbs
  let hundredths :=
    if 0 ≤ x.exponent then magnitude * 2 ^ x.exponent.toNat
    else roundShift magnitude (-x.exponent).toNat
  let digits := hundredths % 100
  (if x.significand < 0 then "-" else "") ++ toString (hundredths / 100) ++
    "." ++ (if digits < 10 then "0" else "") ++ toString digits

end Float64
end SettleAgent
