import CallAtlas.Source.Token
import CallAtlas.Text.CharacterName
import CallAtlas.Text.RangeTable

/-!
# String literals

What the characters between the quotes of a literal stand for.  In a raw literal every character
stands for itself; otherwise a backslash begins an escape, and a backslash that begins none stands
for itself.
-/

namespace CallAtlas.Source.StringLiteral

def hexDigitValue? (c : Char) : Option Nat :=
  if c.isDigit then some (c.toNat - 48)
  else if 'a' ≤ c ∧ c ≤ 'f' then some (c.toNat - 87)
  else if 'A' ≤ c ∧ c ≤ 'F' then some (c.toNat - 55)
  else none

/-- The number written with exactly `count` hexadecimal digits at the start of a text. -/
def hexNumber? : Nat → Nat → List Char → Option (Nat × List Char)
  | 0, n, rest => some (n, rest)
  | _ + 1, _, [] => none
  | count + 1, n, c :: rest =>
    match hexDigitValue? c with
    | some d => hexNumber? count (16 * n + d) rest
    | none => none

def isOctal (c : Char) : Bool := '0' ≤ c && c ≤ '7'

def letterEscape? (c : Char) : Option Nat :=
  match c with
  | '\\' => some 92
  | '\'' => some 39
  | '"' => some 34
  | 'a' => some 7
  | 'b' => some 8
  | 'f' => some 12
  | 'n' => some 10
  | 'r' => some 13
  | 't' => some 9
  | 'v' => some 11
  | _ => none

def octalNumber (cs : List Char) : Nat × List Char :=
  let digits := (cs.take 3).takeWhile isOctal
  (digits.foldl (fun n c => 8 * n + (c.toNat - 48)) 0, cs.drop digits.length)

/-- The escape whose backslash has been read: the points it stands for and the text after it.
Escapes that name a character have a meaning in texts only. -/
def escape (inBytes : Bool) : List Char → Option (List Nat × List Char)
  | [] => some ([92], [])
  | c :: rest =>
    if c == '\n' then some ([], rest)
    else if isOctal c then
      let (n, after) := octalNumber (c :: rest)
      some ([if inBytes then n % 256 else n], after)
    else if c == 'x' then (hexNumber? 2 0 rest).map fun (n, after) => ([n], after)
    else if inBytes then
      match letterEscape? c with
      | some n => some ([n], rest)
      | none => some ([92, c.toNat], rest)
    else if c == 'u' then (hexNumber? 4 0 rest).map fun (n, after) => ([n], after)
    else if c == 'U' then
      match hexNumber? 8 0 rest with
      | some (n, after) => if n ≤ 0x10ffff then some ([n], after) else none
      | none => none
    else if c == 'N' then
      match rest with
      | '{' :: named =>
        match named.dropWhile (· != '}') with
        | _ :: after =>
          (Text.CharacterName.find? (String.ofList (named.takeWhile (· != '}')))).map
            fun point => ([point], after)
        | [] => none
      | _ => none
    else
      match letterEscape? c with
      | some n => some ([n], rest)
      | none => some ([92, c.toNat], rest)

def decodeFrom (inBytes : Bool) : Nat → List Char → Option (List Nat)
  | 0, _ => some []
  | _ + 1, [] => some []
  | fuel + 1, c :: rest =>
    if c == '\\' then
      match escape inBytes rest with
      | some (points, after) => (decodeFrom inBytes fuel after).map (points ++ ·)
      | none => none
    else
      (decodeFrom inBytes fuel rest).map (c.toNat :: ·)

def decode (isRaw inBytes : Bool) (body : List Char) : Option (List Nat) :=
  if isRaw then some (body.map Char.toNat) else decodeFrom inBytes body.length body

/-! ## Replacement fields -/

/-- Where a constant part of a formatted string ends. -/
inductive Stop where
  /-- At the end of the text. -/
  | finished
  /-- At a doubled brace, which stands for a single one. -/
  | doubled
  /-- At the opening brace of a field. -/
  | field
  /-- At the brace that closes the enclosing field. -/
  | close
deriving DecidableEq

/-- What has been read just before the next character of a constant part. -/
inductive Mode where
  | plain
  | escaped
  | beforeName
  | inName
deriving DecidableEq

/-- The constant part at the start of a formatted string: its characters, where it ends, and the
text behind the brace that ends it.  Outside format specifications (`top`) a doubled brace stands
for a single one, and a single closing brace is refused. -/
def constantPart (isRaw top : Bool) : Mode → List Char → Option (List Char × Stop × List Char)
  | _, [] => some ([], .finished, [])
  | mode, c :: rest =>
    let keep (next : Mode) : Option (List Char × Stop × List Char) :=
      (constantPart isRaw top next rest).map fun (cs, stop, after) => (c :: cs, stop, after)
    match mode with
    | .beforeName => keep (if c == '{' then .inName else .plain)
    | .inName => keep (if c == '}' then .plain else .inName)
    | mode =>
      if mode == .escaped && c == 'N' then keep .beforeName
      else if c == '{' || c == '}' then
        if top && rest.head? == some c then some ([c], .doubled, rest.drop 1)
        else if top && c == '}' then none
        else some ([], if c == '{' then .field else .close, rest)
      else if mode == .plain && !isRaw && c == '\\' then keep .escaped
      else keep .plain

def closing (c : Char) : Char :=
  if c == '(' then ')' else if c == '[' then ']' else '}'

/-- The expression at the start of a replacement field and the text from the character on that ends
it.  Strings and brackets inside the expression are skipped as a whole; backslashes and number signs
are refused.  `quote` is the quote of the string the scan is in, with whether it is a triple one,
`awaited` are the brackets to be closed, and `skip` characters belong to the last one read. -/
def fieldSource (skip : Nat) (quote : Option (Char × Bool)) (awaited : List Char) :
    List Char → Option (List Char × List Char)
  | [] => none
  | c :: rest =>
    let keep (skip : Nat) (quote : Option (Char × Bool)) (awaited : List Char) :
        Option (List Char × List Char) :=
      (fieldSource skip quote awaited rest).map fun (cs, after) => (c :: cs, after)
    let isTriple := [c, c].isPrefixOf rest
    if c == '\\' then none
    else if 0 < skip then keep (skip - 1) quote awaited
    else
      match quote with
      | some (q, isLong) =>
        if c != q || (isLong && !isTriple) then keep 0 quote awaited
        else keep (if isLong then 2 else 0) none awaited
      | none =>
        if c == '\'' || c == '"' then keep (if isTriple then 2 else 0) (some (c, isTriple)) awaited
        else if c == '(' || c == '[' || c == '{' then keep 0 none (closing c :: awaited)
        else if c == '#' then none
        else
          match awaited with
          | [] =>
            if (c == '!' || c == '=' || c == '<' || c == '>') && rest.head? == some '=' then
              keep 1 none awaited
            else if c == '!' || c == '=' || c == ':' || c == '}' then some ([], c :: rest)
            else if c == ')' || c == ']' then none
            else keep 0 none awaited
          | top :: outer =>
            if c == ')' || c == ']' || c == '}' then
              if c == top then keep 0 none outer else none
            else keep 0 none awaited

/-- Blanks that may be all there is between braces, which is refused. -/
def isFieldBlank (c : Char) : Bool :=
  c == ' ' || c == '\t' || c == '\n' || c == '\x0c'

/-- Blanks skipped behind the mark that asks for the text of the expression. -/
def isEchoBlank (c : Char) : Bool :=
  c == ' ' || (9 ≤ c.toNat && c.toNat ≤ 13)

/-- A part of a formatted string. -/
inductive Piece where
  | text (points : List Nat)
  | field (value : Expr)

/-- Joins neighbouring texts and drops empty ones. -/
def mergePieces (marked : Bool) : List Nat → List Piece → List Expr
  | pending, [] => if pending.isEmpty then [] else [.literal (.text pending marked)]
  | pending, .text points :: rest => mergePieces marked (pending ++ points) rest
  | pending, .field value :: rest =>
    (if pending.isEmpty then [] else [.literal (.text pending marked)]) ++
      value :: mergePieces marked [] rest

/-- Splits off the conversion letter after an exclamation mark. -/
def conversion : List Char → Option (Option Char × List Char)
  | '!' :: c :: rest =>
    if c == 's' || c == 'r' || c == 'a' then some (some c, rest) else none
  | ['!'] => none
  | cs => some (none, cs)

/-- The pieces of a formatted string, up to its end or, inside a field (`level > 0`), up to the
brace that closes the field.  `parse` reads the expression of a field that starts on the given line.
Fields nest at most two deep. -/
def pieces (parse : Nat → List Char → Option Expr) (isRaw : Bool) :
    Nat → Nat → Nat → List Char → Option (List Piece × List Char × Nat)
  | 0, _, _, _ => none
  | fuel + 1, level, line, cs => do
    let (constant, stop, rest) ← constantPart isRaw (level == 0) .plain cs
    let points ← decode isRaw false constant
    let line := line + constant.count '\n'
    match stop with
    | .finished => if level = 0 then some ([.text points], [], line) else none
    | .close => some ([.text points], rest, line)
    | .doubled =>
      let (tail, after, last) ← pieces parse isRaw fuel level line rest
      some (.text points :: tail, after, last)
    | .field =>
      if 2 ≤ level then none
      else
        let (source, after) ← fieldSource 0 none [] rest
        if source.all isFieldBlank then none
        else
          let value ← parse line source
          let line := line + source.count '\n'
          let (echo, after) := match after with
            | '=' :: behind => (true, behind)
            | _ => (false, after)
          let blanks := if echo then after.takeWhile isEchoBlank else []
          let after := after.drop blanks.length
          let line := line + blanks.count '\n'
          let echoed := if echo then source ++ '=' :: blanks else []
          let (conv, after) ← conversion after
          let (spec, after, line) ← match after with
            | ':' :: behind =>
              (pieces parse isRaw fuel (level + 1) line behind).map fun (ps, remaining, last) =>
                (some (Expr.joined (mergePieces false [] ps)), remaining, last)
            | '}' :: behind => some (none, behind, line)
            | _ => none
          let conv := if echo && spec.isNone && conv.isNone then some 'r' else conv
          let (tail, remaining, last) ← pieces parse isRaw fuel level line after
          some (.text points :: .text (echoed.map Char.toNat) :: .field (.formatted value conv spec) ::
            tail, remaining, last)

def tokenPieces (parse : Nat → List Char → Option Expr) (line : Nat) (t : StringToken) :
    Option (List Piece) :=
  if t.isFormatted then (pieces parse t.isRaw (t.body.length + 1) 0 line t.body).map (·.1)
  else (decode t.isRaw false t.body).map fun points => [.text points]

/-- The bytes of one literal token, which may hold ASCII only. -/
def tokenBytes (t : StringToken) : Option (List Nat) :=
  if t.body.all (·.val < 128) then decode t.isRaw true t.body else none

/-- The value of neighbouring literals, given with their lines: they are joined, and bytes do not
mix with text. -/
def value (parse : Nat → List Char → Option Expr) (tokens : List (StringToken × Nat)) :
    Option Expr :=
  if tokens.all (·.1.isBytes) then do
    let bytes ← tokens.mapM fun t => tokenBytes t.1
    some (.literal (.bytes bytes.flatten))
  else if tokens.any (·.1.isBytes) then none
  else do
    let all ← tokens.mapM fun t => tokenPieces parse t.2 t.1
    let marked := (tokens.head?.map (·.1.isMarked)).getD false
    let parts := mergePieces marked [] all.flatten
    if tokens.any (·.1.isFormatted) then some (.joined parts)
    else
      match parts with
      | part :: _ => some part
      | [] => some (.literal (.text [] marked))

end CallAtlas.Source.StringLiteral
