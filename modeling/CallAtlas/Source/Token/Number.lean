import CallAtlas.Decimal.Numeral
import CallAtlas.Source.Token

/-!
# Numeric literals

Integers in four bases, decimal numbers and imaginary numbers.  Underscores group digits.  A
numeral may be followed at once by one of the keywords that can follow a number, but by no other
word.
-/

namespace CallAtlas.Source.Number

/-- Whether a character would continue a word. -/
def isWordChar (c : Char) : Bool :=
  c.isAlphanum || c == '_' || 128 ≤ c.val

/-- Keyword beginnings that may follow a numeral at once. -/
def followers : List String := ["and", "else", "for", "if", "in", "is", "or", "not"]

/-- Whether a numeral may end before the given text. -/
def mayEnd (rest : List Char) : Bool :=
  match rest with
  | [] => true
  | c :: _ => !isWordChar c || followers.any fun w => w.toList.isPrefixOf rest

/-- A group of digits with single underscores between them; `none` if an underscore is not
followed by a digit.  `more` says that a digit has been read. -/
def digitRun (isDigit : Char → Bool) : List Char → Option (List Char × List Char)
  | [] => some ([], [])
  | '_' :: c :: rest =>
    if isDigit c then (digitRun isDigit rest).map fun (ds, r) => (c :: ds, r) else none
  | c :: rest =>
    if isDigit c then (digitRun isDigit rest).map fun (ds, r) => (c :: ds, r)
    else if c == '_' then none
    else some ([], c :: rest)

def digitValue (c : Char) : Nat :=
  if c.isDigit then c.toNat - 48 else c.toLower.toNat - 87

def isDigitOf (base : Nat) (c : Char) : Bool :=
  (c.isDigit || ('a' ≤ c.toLower && c.toLower ≤ 'f')) && digitValue c < base

def valueOf (base : Nat) (digits : List Char) : Nat :=
  digits.foldl (fun n c => base * n + digitValue c) 0

/-- An integer in another base than ten, after its mark.  An underscore may follow the mark, and
no decimal digit may follow the digits. -/
def based (base : Nat) (cs : List Char) : Option (Literal × List Char) := do
  let cs := match cs with
    | '_' :: rest => rest
    | cs => cs
  let (digits, rest) ← match cs with
    | '_' :: _ => none
    | cs => digitRun (isDigitOf base) cs
  if digits.isEmpty then none
  else if (rest.head?.any Char.isDigit) then none
  else if mayEnd rest then some (.integer (valueOf base digits), rest)
  else none

/-- The exponent of a decimal number and what follows it.  A letter `e` that no number follows
begins a keyword instead. -/
def exponentPart (cs : List Char) : Option (Option Int × List Char) :=
  match cs with
  | e :: rest =>
    if e == 'e' || e == 'E' then
      match rest with
      | s :: d :: _ =>
        if s == '+' || s == '-' then
          if d.isDigit then do
            let (digits, after) ← digitRun Char.isDigit (rest.drop 1)
            let n : Int := Decimal.digitsValue digits
            some (some (if s == '-' then -n else n), after)
          else none
        else if s.isDigit then do
          let (digits, after) ← digitRun Char.isDigit rest
          some (some (Decimal.digitsValue digits : Int), after)
        else some (none, cs)
      | [s] => if s.isDigit then some (some (digitValue s : Int), [])
        else if s == '+' || s == '-' then none else some (none, cs)
      | [] => some (none, cs)
    else some (none, cs)
  | [] => some (none, [])

/-- Ends a number with a point or an exponent, or an imaginary one. -/
def finishReal (whole fraction : List Char) (exponent : Option Int) (rest : List Char) :
    Option (Literal × List Char) :=
  let x := Decimal.nearestScaled (Decimal.digitsValue (whole ++ fraction))
    (exponent.getD 0 - fraction.length)
  match rest with
  | c :: after =>
    if c == 'j' || c == 'J' then if mayEnd after then some (.imaginary x, after) else none
    else if mayEnd rest then some (.number x, rest) else none
  | [] => some (.number x, rest)

/-- A number from its point on, given the digits before it. -/
def fractional (whole : List Char) (cs : List Char) : Option (Literal × List Char) := do
  let (fraction, rest) ← match cs with
    | c :: _ => if c.isDigit then digitRun Char.isDigit cs else some ([], cs)
    | [] => some ([], [])
  let (exponent, rest) ← exponentPart rest
  finishReal whole fraction exponent rest

def decimal (cs : List Char) : Option (Literal × List Char) := do
  let (digits, rest) ← digitRun Char.isDigit cs
  match rest with
  | '.' :: after => fractional digits after
  | _ =>
    let (exponent, after) ← exponentPart rest
    let imaginary := match after with
      | c :: _ => c == 'j' || c == 'J'
      | [] => false
    if exponent.isSome || imaginary then finishReal digits [] exponent after
    else if digits.head? == some '0' && digits.any (· != '0') then none
    else if Decimal.integerDigitLimit < digits.length then none
    else if mayEnd rest then some (.integer (Decimal.digitsValue digits), rest)
    else none

/-- Scans the numeral at the start of a text that begins with a digit, or with a point and a
digit. -/
def scan : List Char → Option (Literal × List Char)
  | '0' :: c :: rest =>
    if c == 'x' || c == 'X' then based 16 rest
    else if c == 'o' || c == 'O' then based 8 rest
    else if c == 'b' || c == 'B' then based 2 rest
    else decimal ('0' :: c :: rest)
  | '.' :: rest => fractional [] rest
  | cs => decimal cs

end CallAtlas.Source.Number
