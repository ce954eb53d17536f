import CallAtlas.Decimal.Power

/-!
# Shortest decimal text of a binary number

A finite number `m · 2^q` is the nearest one to every real in an interval around it.  Its shortest
decimal is the one with the fewest digits inside that interval, and the nearest of those.  All
tests are done in exact integer arithmetic on a common denominator.
-/

namespace CallAtlas.Decimal

/-- A finite binary number `± mantissa · 2 ^ exponent`. -/
structure Binary where
  negative : Bool
  mantissa : Nat
  exponent : Int
  /-- Whether the number below is half as far away as the number above. -/
  narrow : Bool

/-- What the bits of a 64 bit number say. -/
inductive Bits where
  | nan
  | infinite (negative : Bool)
  | finite (value : Binary)

def bitsOf (x : Float) : Bits :=
  let n : Nat := x.toBits.toNat
  let negative := n / twoTo 63 == 1
  let biased : Nat := n / twoTo 52 % twoTo 11
  let fraction := n % twoTo 52
  if biased = 2047 then
    if fraction = 0 then .infinite negative else .nan
  else if biased = 0 then
    .finite ⟨negative, fraction, -1074, false⟩
  else
    .finite ⟨negative, twoTo 52 + fraction, (biased : Int) - 1075, fraction == 0 && 1 < biased⟩

/-- Decimal digits of a positive value and the power of ten of the first one: the value is
`d.ddd · 10 ^ exponent`. -/
structure Digits where
  digits : List Nat
  exponent : Int

/-- A positive value and the ends of its rounding interval, over a common denominator. -/
structure Interval where
  low : Nat
  value : Nat
  high : Nat
  unit : Nat
  closed : Bool

def Binary.interval (b : Binary) : Interval :=
  let up := twoTo b.exponent.toNat
  let unit := 4 * twoTo (-b.exponent).toNat
  ⟨(4 * b.mantissa - (if b.narrow then 1 else 2)) * up, 4 * b.mantissa * up,
    (4 * b.mantissa + 2) * up, unit, b.mantissa % 2 == 0⟩

def Interval.holds (i : Interval) (num den : Nat) : Bool :=
  let x := num * i.unit
  if i.closed then i.low * den ≤ x && x ≤ i.high * den else i.low * den < x && x < i.high * den

/-- Least `k` (counted up from `k`) with `value < 10 ^ k`, at most `fuel` steps. -/
def magnitudeFrom (value unit : Nat) : Nat → Int → Int
  | 0, k => k
  | fuel + 1, k =>
    if value * tenTo (-k).toNat < unit * tenTo k.toNat then k
    else magnitudeFrom value unit fuel (k + 1)

/-- The `k` with `10 ^ (k - 1) ≤ value < 10 ^ k`; the search starts from the binary logarithm. -/
def Interval.magnitude (i : Interval) : Int :=
  let guess := ((i.value.log2 : Int) - (i.unit.log2 : Int) - 1) * 30103 / 100000
  magnitudeFrom i.value i.unit 8 (guess - 1)

/-- Decimal on the grid `10 ^ power` that the interval holds, the nearest to the value if there
are two, the even one on a tie. -/
def Interval.onGrid (i : Interval) (power : Int) : Option Nat :=
  let up := tenTo power.toNat
  let down := tenTo (-power).toNat
  let below := i.value * down / (i.unit * up)
  let above := below + 1
  let low := i.holds (below * up) down
  let high := i.holds (above * up) down
  if low && high then
    let twice := 2 * (i.value * down)
    let middle := (below + above) * up * i.unit
    some (if twice < middle then below
      else if middle < twice then above
      else if below % 2 = 0 then below else above)
  else if low then some below
  else if high then some above
  else none

/-- Shortest decimal with at most `count + tries` digits, tried from `count` digits up. -/
def Interval.shortestFrom (i : Interval) (magnitude : Int) : Nat → Nat → Nat × Int
  | 0, count => (i.value / i.unit, magnitude - count)
  | tries + 1, count =>
    match i.onGrid (magnitude - count) with
    | some n => (n, magnitude - count)
    | none => shortestFrom i magnitude tries (count + 1)

def digitsOf (n : Nat) : List Nat :=
  (Nat.toDigits 10 n).map fun c => c.toNat - 48

def dropTrailingZeros (digits : List Nat) : List Nat :=
  (digits.reverse.dropWhile (· == 0)).reverse

def Binary.shortest (b : Binary) : Digits :=
  let i := b.interval
  let (n, power) := i.shortestFrom i.magnitude 18 1
  let all := digitsOf n
  ⟨dropTrailingZeros all, power + all.length - 1⟩

end CallAtlas.Decimal
