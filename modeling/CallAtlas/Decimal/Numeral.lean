import CallAtlas.Decimal.Nearest
import CallAtlas.Text.Blank
import CallAtlas.Text.Digit
import CallAtlas.Text.Quoted

/-!
# Reading numerals

Integers and numbers as they stand in settings and layout texts.  Decimal digits of every script
count, blanks around the numeral are ignored, and a single underscore may stand between two
digits.
-/

namespace CallAtlas.Decimal

open Text

/-- A numeral with the digits and blanks of other scripts replaced by the ASCII ones. -/
def plainChar (c : Char) : Char :=
  if c.val < 127 then c
  else if isBlank c then ' '
  else
    match decimalValue? c with
    | some d => Char.ofNat (48 + d)
    | none => c

def isNumeralBlank (c : Char) : Bool :=
  c == ' ' || (9 ≤ c.toNat && c.toNat ≤ 13)

def plainNumeral (s : List Char) : List Char :=
  let cs := (s.map plainChar).dropWhile isNumeralBlank
  (cs.reverse.dropWhile isNumeralBlank).reverse

/-- Removes the underscores of a text if each of them stands between two digits. -/
def dropUnderscores (before : Option Char) : List Char → Option (List Char)
  | [] => if before == some '_' then none else some []
  | c :: rest =>
    if c == '_' then
      if before.any Char.isDigit then dropUnderscores (some c) rest else none
    else if before == some '_' && !c.isDigit then none
    else (dropUnderscores (some c) rest).map (c :: ·)

def digitsValue (digits : List Char) : Nat :=
  digits.foldl (fun n c => 10 * n + (c.toNat - 48)) 0

/-- Splits off a sign; `true` means negative. -/
def splitSign : List Char → Bool × List Char
  | '-' :: rest => (true, rest)
  | '+' :: rest => (false, rest)
  | cs => (false, cs)

/-- Why a text is no integer. -/
inductive IntegerError where
  | malformed (text : String)
  | tooLong (digits : Nat)
deriving DecidableEq

/-- Largest number of digits an integer may have. -/
def integerDigitLimit : Nat := 4300

/-- Explanation of an integer error; a long text is shown only up to its 200th character. -/
def IntegerError.message : IntegerError → String
  | .malformed text =>
    "invalid literal for int() with base 10: " ++ String.ofList ((quoted text).toList.take 200)
  | .tooLong digits =>
    "Exceeds the limit (" ++ toString integerDigitLimit ++
      " digits) for integer string conversion: value has " ++ toString digits ++
      " digits; use sys.set_int_max_str_digits() to increase the limit"

def readInteger (s : String) : Except IntegerError Int :=
  let (negative, body) := splitSign (plainNumeral s.toList)
  match dropUnderscores none body with
  | none => .error (.malformed s)
  | some digits =>
    if digits.isEmpty || !digits.all Char.isDigit then .error (.malformed s)
    else if integerDigitLimit < digits.length then .error (.tooLong digits.length)
    else
      let n : Int := digitsValue digits
      .ok (if negative then -n else n)

/-- Splits off an exponent part; `none` if the rest is no exponent part. -/
def readExponent : List Char → Option Int
  | [] => some 0
  | e :: rest =>
    if e == 'e' || e == 'E' then
      let (negative, digits) := splitSign rest
      if digits.isEmpty || !digits.all Char.isDigit then none
      else
        let n : Int := digitsValue digits
        some (if negative then -n else n)
    else
      none

/-- Reads an unsigned decimal: digits with an optional point, and an optional exponent. -/
def readDecimal (cs : List Char) : Option Float :=
  let whole := cs.takeWhile Char.isDigit
  let rest := cs.dropWhile Char.isDigit
  let (fraction, rest) := match rest with
    | '.' :: rest => (rest.takeWhile Char.isDigit, rest.dropWhile Char.isDigit)
    | rest => ([], rest)
  if whole.isEmpty && fraction.isEmpty then none
  else
    (readExponent rest).map fun e =>
      nearestScaled (digitsValue (whole ++ fraction)) (e - fraction.length)

def notANumber : Float := Float.ofBits 0x7ff8000000000000

def readMagnitude (body : List Char) : Option Float :=
  let word := String.ofList (body.map Char.toLower)
  if word = "inf" ∨ word = "infinity" then some infinity
  else if word = "nan" then some notANumber
  else readDecimal body

def readNumber (s : String) : Option Float :=
  match dropUnderscores none (plainNumeral s.toList) with
  | none => none
  | some cs =>
    let (negative, body) := splitSign cs
    (readMagnitude body).map fun x => if negative then -x else x

end CallAtlas.Decimal
