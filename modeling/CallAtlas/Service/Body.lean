import CallAtlas.Decimal.Numeral

/-!
# Request bodies

Reading the JSON text of a request.  Of several members of an object with one name the last counts;
`NaN` and infinite numbers are read too.
-/

namespace CallAtlas.Service

/-- A JSON value.  What a number is does not matter here. -/
inductive Json where
  | null
  | truth (b : Bool)
  | number
  | text (s : String)
  | list (items : List Json)
  | record (members : List (String × Json))

inductive BodyError where
  | malformed
  /-- An integer has too many digits. -/
  | integerTooLong
deriving DecidableEq

namespace Json

/-- A reader takes characters from the front of a text. -/
abbrev Reader (α : Type) := List Char → Except BodyError (α × List Char)

def isBlank (c : Char) : Bool := c == ' ' || c == '\t' || c == '\n' || c == '\r'

def skipBlanks (s : List Char) : List Char := s.dropWhile isBlank

def hexValue? (c : Char) : Option Nat :=
  if c.isDigit then some (c.toNat - 48)
  else if 'a' ≤ c ∧ c ≤ 'f' then some (c.toNat - 87)
  else if 'A' ≤ c ∧ c ≤ 'F' then some (c.toNat - 55)
  else none

def readUnit : Reader Nat
  | a :: b :: c :: d :: rest =>
    match hexValue? a, hexValue? b, hexValue? c, hexValue? d with
    | some a, some b, some c, some d => .ok (((a * 16 + b) * 16 + c) * 16 + d, rest)
    | _, _, _, _ => .error .malformed
  | _ => .error .malformed

/-- The character after `\u`.  Two escapes may make up one character; half of such a pair is shown
as a replacement character. -/
def readEscapedUnit (s : List Char) : Except BodyError (Char × List Char) := do
  let (high, rest) ← readUnit s
  if 0xd800 ≤ high ∧ high < 0xdc00 then
    match rest with
    | '\\' :: 'u' :: after =>
      match readUnit after with
      | .ok (low, rest') =>
        if 0xdc00 ≤ low ∧ low < 0xe000 then
          return (Char.ofNat (0x10000 + (high - 0xd800) * 1024 + (low - 0xdc00)), rest')
        else return (Char.ofNat 0xfffd, rest)
      | .error e => throw e
    | _ => return (Char.ofNat 0xfffd, rest)
  else if 0xdc00 ≤ high ∧ high < 0xe000 then return (Char.ofNat 0xfffd, rest)
  else return (Char.ofNat high, rest)

def escapes : List (Char × Char) :=
  [('"', '"'), ('\\', '\\'), ('/', '/'), ('b', '\x08'), ('f', '\x0c'), ('n', '\n'), ('r', '\r'),
    ('t', '\t')]

/-- The rest of a quoted text after its opening quote, given the characters so far, last one
first. -/
def readText : Nat → List Char → Reader String
  | 0, _, _ => .error .malformed
  | _ + 1, _, [] => .error .malformed
  | fuel + 1, done, c :: rest =>
    if c == '"' then .ok (String.ofList done.reverse, rest)
    else if c.toNat < 32 then .error .malformed
    else if c == '\\' then
      match rest with
      | 'u' :: rest => do
        let (c, rest) ← readEscapedUnit rest
        readText fuel (c :: done) rest
      | e :: rest =>
        match escapes.lookup e with
        | some c => readText fuel (c :: done) rest
        | none => .error .malformed
      | [] => .error .malformed
    else readText fuel (c :: done) rest

def readNumber (s : List Char) : Except BodyError (Json × List Char) :=
  let body := match s with
    | '-' :: rest => rest
    | _ => s
  let digits := body.takeWhile Char.isDigit
  let whole := if body.head? == some '0' then ['0'] else digits
  if whole.isEmpty then .error .malformed
  else
    let rest := body.drop whole.length
    let afterFraction := match rest with
      | '.' :: d :: more => if d.isDigit then more.dropWhile Char.isDigit else rest
      | _ => rest
    let exponent? (cs : List Char) : Option (List Char) := match cs with
      | d :: more => if d.isDigit then some (more.dropWhile Char.isDigit) else none
      | [] => none
    let afterExponent := match afterFraction with
      | e :: sign :: more =>
        if e == 'e' || e == 'E' then
          let digits := if sign == '+' || sign == '-' then more else sign :: more
          (exponent? digits).getD afterFraction
        else afterFraction
      | _ => afterFraction
    if afterExponent.length = rest.length ∧ Decimal.integerDigitLimit < whole.length then
      .error .integerTooLong
    else .ok (.number, afterExponent)

def words : List (List Char × Json) :=
  [("null".toList, .null), ("true".toList, .truth true), ("false".toList, .truth false),
    ("NaN".toList, .number), ("Infinity".toList, .number), ("-Infinity".toList, .number)]

def readPlain (s : List Char) : Except BodyError (Json × List Char) :=
  match words.find? fun w => w.1.isPrefixOf s with
  | some w => .ok (w.2, s.drop w.1.length)
  | none => readNumber s

mutual

/-- A value; `fuel` bounds the length of the text. -/
def readValue : Nat → List Char → Except BodyError (Json × List Char)
  | 0, _ => .error .malformed
  | fuel + 1, s =>
    match s with
    | '"' :: rest => do
      let (content, rest) ← readText rest.length.succ [] rest
      return (.text content, rest)
    | '[' :: rest =>
      match skipBlanks rest with
      | ']' :: rest => .ok (.list [], rest)
      | rest => do
        let (items, rest) ← readItems fuel rest
        return (.list items, rest)
    | '{' :: rest =>
      match skipBlanks rest with
      | '}' :: rest => .ok (.record [], rest)
      | rest => do
        let (members, rest) ← readMembers fuel rest
        return (.record members, rest)
    | _ => readPlain s

/-- The items of a list from a value on. -/
def readItems : Nat → List Char → Except BodyError (List Json × List Char)
  | 0, _ => .error .malformed
  | fuel + 1, s => do
    let (item, rest) ← readValue fuel s
    match skipBlanks rest with
    | ']' :: rest => return ([item], rest)
    | ',' :: rest =>
      let (items, rest) ← readItems fuel (skipBlanks rest)
      return (item :: items, rest)
    | _ => throw .malformed

/-- The members of a record from a name on. -/
def readMembers : Nat → List Char → Except BodyError (List (String × Json) × List Char)
  | 0, _ => .error .malformed
  | fuel + 1, s =>
    match s with
    | '"' :: rest => do
      let (name, rest) ← readText rest.length.succ [] rest
      match skipBlanks rest with
      | ':' :: rest =>
        let (value, rest) ← readValue fuel (skipBlanks rest)
        match skipBlanks rest with
        | '}' :: rest => return ([(name, value)], rest)
        | ',' :: rest =>
          let (members, rest) ← readMembers fuel (skipBlanks rest)
          return ((name, value) :: members, rest)
        | _ => throw .malformed
      | _ => throw .malformed
    | _ => .error .malformed

end

def parse (body : String) : Except BodyError Json := do
  let s := match body.toList with
    | '\ufeff' :: rest => rest
    | s => s
  let (value, rest) ← readValue (2 * s.length + 2) (skipBlanks s)
  if (skipBlanks rest).isEmpty then return value else throw .malformed

/-- The member of a record with a name; the last one counts. -/
def member? (members : List (String × Json)) (name : String) : Option Json :=
  (members.reverse.find? fun m => m.1 = name).map (·.2)

end Json

end CallAtlas.Service
