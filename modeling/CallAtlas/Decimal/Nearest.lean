import CallAtlas.Decimal.Power

/-!
# Nearest binary number

The 64 bit number nearest to a quotient of natural numbers, a tie going to the even mantissa.
-/

namespace CallAtlas.Decimal

/-- The quotient `num / den` rounded to the nearest natural number, a tie going to the even
one. -/
def roundDiv (num den : Nat) : Nat :=
  let q := num / den
  let r := num % den
  if 2 * r < den then q
  else if den < 2 * r then q + 1
  else if q % 2 = 0 then q else q + 1

def infinity : Float := Float.ofBits 0x7ff0000000000000

/-- The number with the given mantissa below `2 ^ 53`, in units of `2 ^ (power - 1074)`.  A
mantissa of `2 ^ 53` is carried into the exponent by the sum. -/
def assemble (mantissa power : Nat) : Float :=
  if mantissa < twoTo 52 then Float.ofBits mantissa.toUInt64
  else
    let n := power * twoTo 52 + mantissa
    if 2047 * twoTo 52 ≤ n then infinity else Float.ofBits n.toUInt64

/-- Nearest 64 bit number to `num / den`. -/
def nearest (num den : Nat) : Float :=
  if num = 0 then 0
  else
    -- the quotient lies between `2 ^ (size - 1)` and `2 ^ (size + 1)`
    let size : Int := (num.log2 : Int) - (den.log2 : Int)
    let fits (power : Int) : Bool :=
      num * twoTo (-power).toNat < den * twoTo power.toNat * twoTo 53
    let power : Int := if fits (size - 53) then size - 53 else size - 52
    let power : Int := if power < -1074 then -1074 else power
    let mantissa := roundDiv (num * twoTo (-power).toNat) (den * twoTo power.toNat)
    assemble mantissa (power + 1074).toNat

/-- Nearest 64 bit number to `mantissa · 10 ^ exponent`.  Values far outside the range of such
numbers are settled without computing the power. -/
def nearestScaled (mantissa : Nat) (exponent : Int) : Float :=
  if mantissa = 0 then 0
  else
    let size : Int := exponent + (mantissa.log2 : Int) * 30103 / 100000
    if 400 < size then infinity
    else if size < -400 then 0
    else nearest (mantissa * tenTo exponent.toNat) (tenTo (-exponent).toNat)

end CallAtlas.Decimal
