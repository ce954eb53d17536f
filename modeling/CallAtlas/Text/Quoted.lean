import CallAtlas.Text.Printable

/-!
# Quoted text

A text is shown between single quotes, or between double quotes when it holds a single quote and
no double one.  The backslash, the chosen quote and everything that is not printable are escaped.
Texts are lists of code points here, because a literal may name a point that is no character.
-/

namespace CallAtlas.Text

def hexDigit (n : Nat) : Char :=
  Char.ofNat (if n < 10 then 48 + n else 87 + n)

/-- The last `width` hexadecimal digits of a number. -/
def hexDigits : Nat → Nat → List Char
  | 0, _ => []
  | width + 1, n => hexDigits width (n / 16) ++ [hexDigit (n % 16)]

def points (s : String) : List Nat :=
  s.toList.map Char.toNat

/-- Escape of a point that is not shown as it is. -/
def escapePoint (n : Nat) : List Char :=
  if n = 10 then ['\\', 'n']
  else if n = 13 then ['\\', 'r']
  else if n = 9 then ['\\', 't']
  else if n = 92 then ['\\', '\\']
  else if n < 0x100 then '\\' :: 'x' :: hexDigits 2 n
  else if n < 0x10000 then '\\' :: 'u' :: hexDigits 4 n
  else '\\' :: 'U' :: hexDigits 8 n

/-- A point inside quotes of the given kind. -/
def quotePoint (quote : Char) (n : Nat) : List Char :=
  if n = quote.toNat then ['\\', quote]
  else if n ≠ 92 ∧ isPrintable n then [Char.ofNat n]
  else escapePoint n

/-- The quote that shows a text with the fewest escapes. -/
def chooseQuote (text : List Nat) : Char :=
  if text.contains 39 && !text.contains 34 then '"' else '\''

def quotePoints (text : List Nat) : List Char :=
  let quote := chooseQuote text
  quote :: text.flatMap (quotePoint quote) ++ [quote]

def quoted (s : String) : String :=
  String.ofList (quotePoints (points s))

/-- The quoted form of a byte string: only printable ASCII is shown as it is. -/
def quoteBytes (bytes : List Nat) : List Char :=
  let quote := chooseQuote bytes
  let show1 (n : Nat) : List Char :=
    if n = quote.toNat then ['\\', quote]
    else if 32 ≤ n ∧ n < 127 ∧ n ≠ 92 then [Char.ofNat n]
    else escapePoint n
  'b' :: quote :: bytes.flatMap show1 ++ [quote]

end CallAtlas.Text
