import CallAtlas.Decimal.Shortest

/-!
# Written form of numbers

How the shortest digits of a number are laid out: positional for moderate sizes, with an exponent
otherwise.
-/

namespace CallAtlas.Decimal

/-- Decisions of a written form. -/
structure Style where
  /-- Least exponent of the first digit that is written positionally. -/
  leastPositional : Int
  /-- First exponent that is no longer written positionally. -/
  firstScientific : Int
  /-- Whether a whole number keeps a zero after its point. -/
  keepsPoint : Bool
  /-- Text of an infinite number. -/
  infinity : String
  /-- Text of a number that is none. -/
  undefined : String

/-- Numbers in answers: positional from 0.0001 up to below 10^16, always with a point. -/
def answerStyle : Style := ⟨-4, 16, true, "inf", "nan"⟩

def digitChars (digits : List Nat) : List Char :=
  digits.map fun d => Char.ofNat (48 + d)

/-- Positional form. -/
def positional (style : Style) (d : Digits) : List Char :=
  if d.exponent < 0 then
    '0' :: '.' :: List.replicate ((-d.exponent).toNat - 1) '0' ++ digitChars d.digits
  else
    let whole := d.exponent.toNat + 1
    let cs := digitChars d.digits
    if cs.length ≤ whole then
      cs ++ List.replicate (whole - cs.length) '0' ++ (if style.keepsPoint then ['.', '0'] else [])
    else
      cs.take whole ++ '.' :: cs.drop whole

/-- Form with an exponent of at least two digits. -/
def scientific (d : Digits) : List Char :=
  let head := match digitChars d.digits with
    | [] => ['0']
    | [c] => [c]
    | c :: rest => c :: '.' :: rest
  let size := (toString d.exponent.natAbs).toList
  head ++ 'e' :: (if d.exponent < 0 then '-' else '+') ::
    ((if size.length < 2 then ['0'] else []) ++ size)

def layOut (style : Style) (d : Digits) : List Char :=
  if style.leastPositional ≤ d.exponent && d.exponent < style.firstScientific then
    positional style d
  else
    scientific d

def format (style : Style) (x : Float) : String :=
  match bitsOf x with
  | .nan => style.undefined
  | .infinite negative => (if negative then "-" else "") ++ style.infinity
  | .finite b =>
    let body := if b.mantissa = 0 then layOut style ⟨[0], 0⟩ else layOut style b.shortest
    (if b.negative then "-" else "") ++ String.ofList body

def text (x : Float) : String :=
  format answerStyle x

end CallAtlas.Decimal
