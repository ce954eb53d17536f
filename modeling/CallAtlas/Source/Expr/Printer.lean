import CallAtlas.Decimal.Notation
import CallAtlas.Source.Expr
import CallAtlas.Text.Quoted

/-!
# Written form of expressions

The one way in which an expression is written in a signature: operators with single blanks around
them, parentheses exactly where the binding strength asks for them, and string literals with the
fewest escapes.  Inside a replacement field of a formatted string no backslash may occur, so there
literals choose their quotes to avoid escapes, and writing fails if a backslash remains.
-/

namespace CallAtlas.Source

/-- Why an expression has no written form. -/
inductive PrintError where
  /-- A backslash is needed inside a replacement field. -/
  | backslashInField
  /-- An integer has too many digits to be written. -/
  | integerTooLong
  /-- A formatted string holds a constant that is no text. -/
  | constantInFormatted
deriving DecidableEq

def PrintError.message : PrintError → String
  | .backslashInField => "Unable to avoid backslash in f-string expression part"
  | .integerTooLong =>
    "Exceeds the limit (4300 digits) for integer string conversion; " ++
      "use sys.set_int_max_str_digits() to increase the limit"
  | .constantInFormatted => "Constants inside JoinedStr should be a string."

/-! ## Binding strengths, weakest first -/

namespace Strength

def named : Nat := 1
def tuple : Nat := 2
def yielding : Nat := 3
def test : Nat := 4
def disjunction : Nat := 5
def conjunction : Nat := 6
def negation : Nat := 7
def comparison : Nat := 8
def bitOr : Nat := 9
def bitXor : Nat := 10
def bitAnd : Nat := 11
def shift : Nat := 12
def sum : Nat := 13
def product : Nat := 14
def sign : Nat := 15
def power : Nat := 16
def awaiting : Nat := 17
def atom : Nat := 18

def next (n : Nat) : Nat :=
  min (n + 1) atom

end Strength

def BinaryOp.info : BinaryOp → String × Nat
  | .add => ("+", Strength.sum)
  | .sub => ("-", Strength.sum)
  | .mult => ("*", Strength.product)
  | .matMult => ("@", Strength.product)
  | .div => ("/", Strength.product)
  | .mod => ("%", Strength.product)
  | .pow => ("**", Strength.power)
  | .shiftLeft => ("<<", Strength.shift)
  | .shiftRight => (">>", Strength.shift)
  | .bitOr => ("|", Strength.bitOr)
  | .bitXor => ("^", Strength.bitXor)
  | .bitAnd => ("&", Strength.bitAnd)
  | .floorDiv => ("//", Strength.product)

def UnaryOp.info : UnaryOp → String × Nat
  | .invert => ("~", Strength.sign)
  | .not => ("not ", Strength.negation)
  | .plus => ("+", Strength.sign)
  | .minus => ("-", Strength.sign)

def BoolOp.info : BoolOp → String × Nat
  | .and => (" and ", Strength.conjunction)
  | .or => (" or ", Strength.disjunction)

def CompareOp.text : CompareOp → String
  | .eq => "=="
  | .notEq => "!="
  | .lt => "<"
  | .ltEq => "<="
  | .gt => ">"
  | .gtEq => ">="
  | .is => "is"
  | .isNot => "is not"
  | .isIn => "in"
  | .notIn => "not in"

/-! ## String literals -/

namespace Quotes

/-- The quotes a literal may be written with, in order of preference. -/
def all : List (List Char) := [['\''], ['"'], ['"', '"', '"'], ['\'', '\'', '\'']]

def occurs (quote : List Char) (text : List Char) : Bool :=
  match text with
  | [] => quote.isEmpty
  | c :: rest => quote.isPrefixOf (c :: rest) || occurs quote rest

/-- A point of a literal that avoids escapes: line breaks and tabs stay as they are unless they
are to be escaped. -/
def sparePoint (escapeBreaks : Bool) (n : Nat) : List Char :=
  if !escapeBreaks && (n == 10 || n == 9) then [Char.ofNat n]
  else if n == 92 || !Text.isPrintable n then Text.escapePoint n
  else [Char.ofNat n]

/-- Moves the quotes that do not start with the given character to the front. -/
def preferOther (last : Char) (quotes : List (List Char)) : List (List Char) :=
  quotes.filter (fun q => q.head? != some last) ++ quotes.filter (fun q => q.head? == some last)

/-- The body of a literal with few escapes, and the quotes that may still surround it.  When no
quote is left the body of the plainly quoted form is taken. -/
def spare (text : List Nat) (quotes : List (List Char)) (escapeBreaks : Bool) :
    List Char × List (List Char) :=
  let body := text.flatMap (sparePoint escapeBreaks)
  let possible := if body.contains '\n' then quotes.filter (fun q => q.length == 3) else quotes
  let possible := possible.filter fun q => !occurs q body
  match possible with
  | [] =>
    let plain := Text.quotePoints text
    let first := Text.chooseQuote text
    let quote := (quotes.find? fun q => q.contains first).getD [first]
    ((plain.drop 1).dropLast, [quote])
  | _ :: _ =>
    match body.getLast? with
    | none => (body, possible)
    | some last =>
      let possible := preferOther last possible
      if (possible.headD []).head? == some last then
        (body.dropLast ++ ['\\', last], possible)
      else
        (body, possible)

/-- A literal with few escapes. -/
def spareLiteral (text : List Nat) : List Char :=
  let (body, quotes) := spare text all false
  let quote := quotes.headD []
  quote ++ body ++ quote

/-- Joins the parts of a formatted string, narrowing down the quotes part by part; in the constant
parts line breaks are escaped. -/
def joinParts (quotes : List (List Char)) : List (List Nat × Bool) → List Char × List (List Char)
  | [] => ([], quotes)
  | (text, isConstant) :: rest =>
    let (body, quotes) := spare text quotes isConstant
    let (tail, quotes) := joinParts quotes rest
    (body ++ tail, quotes)

end Quotes

/-- Numbers in signatures: an infinite number is written as a decimal that overflows. -/
def realStyle : Decimal.Style := { Decimal.answerStyle with infinity := "1e309" }

/-- Factors of the imaginary unit: like numbers, without a point after a whole number. -/
def imaginaryStyle : Decimal.Style := { realStyle with keepsPoint := false }

def integerDigitLimit : Nat := 4300

def Literal.print (spare : Bool) : Literal → Except PrintError (List Char)
  | .none => .ok "None".toList
  | .truth true => .ok "True".toList
  | .truth false => .ok "False".toList
  | .ellipsis => .ok "...".toList
  | .integer n =>
    if n < Decimal.tenTo integerDigitLimit then .ok (toString n).toList else .error .integerTooLong
  | .number x => .ok (Decimal.format realStyle x).toList
  | .imaginary x => .ok ((Decimal.format imaginaryStyle x).toList ++ ['j'])
  | .text points marked =>
    .ok ((if marked then ['u'] else []) ++
      (if spare then Quotes.spareLiteral points else Text.quotePoints points))
  | .bytes values => .ok (Text.quoteBytes values)

/-- Doubles the braces of the constant part of a formatted string. -/
def doubleBraces (points : List Nat) : List Nat :=
  points.flatMap fun n => if n == 123 || n == 125 then [n, n] else [n]

/-! ## Expressions -/

def parenthesizeIf (condition : Bool) (text : List Char) : List Char :=
  if condition then '(' :: text ++ [')'] else text

def commaList (texts : List (List Char)) : List Char :=
  (texts.intersperse [',', ' ']).flatten

/-- The elements of a tuple; a single one is followed by a comma. -/
def tupleItems : List (List Char) → List Char
  | [text] => text ++ [',']
  | texts => commaList texts

/-- Whether an attribute needs a blank before its dot: an integer would otherwise swallow it. -/
def Expr.needsGap : Expr → Bool
  | .literal (.integer _) => true
  | .literal (.truth _) => true
  | _ => false

/-- Pairs each of the last elements of the first list with an element of the second one. -/
def alignRight {α β : Type} (xs : List α) (ys : List β) : List (α × Option β) :=
  xs.zip (List.replicate (xs.length - ys.length) none ++ ys.map some)

/-- The parameters of an anonymous function, given the written defaults. -/
def lambdaParams (params : Params Expr) (defaults : List (List Char))
    (keywordDefaults : List (Option (List Char))) : List Char :=
  let one (p : Param Expr × Option (List Char)) : List Char :=
    match p.2 with
    | some d => p.1.name.text.toList ++ '=' :: d
    | none => p.1.name.text.toList
  let aligned := alignRight (params.positionalOnly ++ params.ordinary) defaults
  let slash := if params.positionalOnly.isEmpty then [] else [['/']]
  let star := match params.variadic with
    | some p => ['*' :: p.name.text.toList]
    | none => if params.keywordOnly.isEmpty then [] else [['*']]
  let keywords := (params.keywordOnly.zip keywordDefaults).map one
  let last := match params.keywordVariadic with
    | some p => ['*' :: '*' :: p.name.text.toList]
    | none => []
  commaList <| (aligned.take params.positionalOnly.length).map one ++ slash ++
    (aligned.drop params.positionalOnly.length).map one ++ star ++ keywords ++ last

/-- Text of a replacement field, given the written value and the format specification with its
colon. -/
def fieldText (value : List Char) (conversion : Option Char) (spec : List Nat) :
    Except PrintError (List Nat) :=
  if value.contains '\\' then .error .backslashInField
  else
    let gap := if value.head? == some '{' then [' '] else []
    let conv := match conversion with
      | some c => ['!', c]
      | none => []
    .ok (('{' :: gap ++ value ++ conv).map Char.toNat ++ spec ++ [125])

mutual

/-- Written form of an expression that stands where the binding strength `level` is required.
With `spare` set, backslashes are avoided. -/
def Expr.print (spare : Bool) (level : Nat) : Expr → Except PrintError (List Char)
  | .name id _ _ => .ok id.text.toList
  | .member value attr _ _ => do
    let v ← value.print spare Strength.atom
    return v ++ (if value.needsGap then [' ', '.'] else ['.']) ++ attr.text.toList
  | .call func args keywords _ => do
    let f ← func.print spare Strength.atom
    let xs ← printAll spare args
    let ks ← printKeywords spare keywords
    return f ++ '(' :: commaList (xs ++ ks) ++ [')']
  | .literal value => value.print spare
  | .boolOp op values => do
    let xs ← printRising spare (Strength.next op.info.2) values
    return parenthesizeIf (op.info.2 < level) ((xs.intersperse op.info.1.toList).flatten)
  | .named target value => do
    let t ← target.print spare Strength.atom
    let v ← value.print spare Strength.atom
    return parenthesizeIf (Strength.named < level) (t ++ " := ".toList ++ v)
  | .binary left op right => do
    let s := op.info.2
    let l ← left.print spare (if op = .pow then Strength.next s else s)
    let r ← right.print spare (if op = .pow then s else Strength.next s)
    return parenthesizeIf (s < level) (l ++ ' ' :: op.info.1.toList ++ ' ' :: r)
  | .unary op operand => do
    let x ← operand.print spare op.info.2
    return parenthesizeIf (op.info.2 < level) (op.info.1.toList ++ x)
  | .lambda params body => do
    let ds ← printDefaults spare params
    let b ← body.print spare Strength.test
    let ps := lambdaParams params ds.1 ds.2
    return parenthesizeIf (Strength.test < level)
      ("lambda".toList ++ (if ps.isEmpty then [] else ' ' :: ps) ++ ": ".toList ++ b)
  | .conditional test body orelse => do
    let b ← body.print spare (Strength.next Strength.test)
    let t ← test.print spare (Strength.next Strength.test)
    let e ← orelse.print spare Strength.test
    return parenthesizeIf (Strength.test < level)
      (b ++ " if ".toList ++ t ++ " else ".toList ++ e)
  | .dict entries => do
    let xs ← printEntries spare entries
    return '{' :: commaList xs ++ ['}']
  | .set elements => do
    let xs ← printAll spare elements
    return if xs.isEmpty then "\x7b*()\x7d".toList else '{' :: commaList xs ++ ['}']
  | .listComp element clauses => do
    let x ← element.print spare Strength.test
    let cs ← printClauses spare clauses
    return '[' :: x ++ cs ++ [']']
  | .setComp element clauses => do
    let x ← element.print spare Strength.test
    let cs ← printClauses spare clauses
    return '{' :: x ++ cs ++ ['}']
  | .dictComp key value clauses => do
    let k ← key.print spare Strength.test
    let v ← value.print spare Strength.test
    let cs ← printClauses spare clauses
    return '{' :: k ++ ':' :: ' ' :: v ++ cs ++ ['}']
  | .generator element clauses => do
    let x ← element.print spare Strength.test
    let cs ← printClauses spare clauses
    return '(' :: x ++ cs ++ [')']
  | .await value => do
    let v ← value.print spare Strength.atom
    return parenthesizeIf (Strength.awaiting < level) ("await ".toList ++ v)
  | .yield none => .ok (parenthesizeIf (Strength.yielding < level) "yield".toList)
  | .yield (some value) => do
    let v ← value.print spare Strength.atom
    return parenthesizeIf (Strength.yielding < level) ("yield ".toList ++ v)
  | .yieldFrom value => do
    let v ← value.print spare Strength.atom
    return parenthesizeIf (Strength.yielding < level) ("yield from ".toList ++ v)
  | .compare left ops comparators => do
    let l ← left.print spare (Strength.next Strength.comparison)
    let rs ← printAt spare (Strength.next Strength.comparison) comparators
    let tail := (ops.zip rs).flatMap fun p => ' ' :: p.1.text.toList ++ ' ' :: p.2
    return parenthesizeIf (Strength.comparison < level) (l ++ tail)
  | .formatted value conversion spec => do
    let x ← value.print true (Strength.next Strength.test)
    let tail ← printSpec spec
    let field ← fieldText x conversion tail
    return 'f' :: Quotes.spareLiteral field
  | .joined parts => do
    let ps ← printParts parts
    if spare then
      return 'f' :: Quotes.spareLiteral (ps.flatMap (·.1))
    else
      let (body, quotes) := Quotes.joinParts Quotes.all ps
      let quote := quotes.headD []
      return 'f' :: quote ++ body ++ quote
  | .subscript value (.tuple elements) => do
    let v ← value.print spare Strength.atom
    let xs ← printAll spare elements
    return v ++ '[' :: parenthesizeIf xs.isEmpty (tupleItems xs) ++ [']']
  | .subscript value index => do
    let v ← value.print spare Strength.atom
    let i ← index.print spare Strength.test
    return v ++ '[' :: i ++ [']']
  | .starred value => do
    let v ← value.print spare Strength.bitOr
    return '*' :: v
  | .list elements => do
    let xs ← printAll spare elements
    return '[' :: commaList xs ++ [']']
  | .tuple elements => do
    let xs ← printAll spare elements
    return parenthesizeIf (xs.isEmpty || Strength.tuple < level) (tupleItems xs)
  | .slice lower upper step => do
    let l ← printOption spare lower
    let u ← printOption spare upper
    let s ← printOption spare step
    let tail := match s with
      | some s => ':' :: s
      | none => []
    return l.getD [] ++ ':' :: u.getD [] ++ tail

def printAll (spare : Bool) : List Expr → Except PrintError (List (List Char))
  | [] => .ok []
  | e :: rest => do
    let x ← e.print spare Strength.test
    let xs ← printAll spare rest
    return x :: xs

/-- Written forms of expressions that stand where the strength `level` is required. -/
def printAt (spare : Bool) (level : Nat) : List Expr → Except PrintError (List (List Char))
  | [] => .ok []
  | e :: rest => do
    let x ← e.print spare level
    let xs ← printAt spare level rest
    return x :: xs

/-- Written forms of the operands of a connective, each of which binds more strongly than the one
before. -/
def printRising (spare : Bool) (level : Nat) : List Expr → Except PrintError (List (List Char))
  | [] => .ok []
  | e :: rest => do
    let x ← e.print spare level
    let xs ← printRising spare (Strength.next level) rest
    return x :: xs

def printOption (spare : Bool) : Option Expr → Except PrintError (Option (List Char))
  | none => .ok none
  | some e => do
    let x ← e.print spare Strength.test
    return some x

def printOptions (spare : Bool) : List (Option Expr) → Except PrintError (List (Option (List Char)))
  | [] => .ok []
  | e :: rest => do
    let x ← printOption spare e
    let xs ← printOptions spare rest
    return x :: xs

def printDefaults (spare : Bool) :
    Params Expr → Except PrintError (List (List Char) × List (Option (List Char)))
  | ⟨_, _, _, _, keywordDefaults, _, defaults⟩ => do
    let ds ← printAll spare defaults
    let ks ← printOptions spare keywordDefaults
    return (ds, ks)

def printKeyword (spare : Bool) : Keyword Expr → Except PrintError (List Char)
  | ⟨name, value⟩ => do
    let v ← value.print spare Strength.test
    return match name with
      | some id => id.text.toList ++ '=' :: v
      | none => '*' :: '*' :: v

def printKeywords (spare : Bool) : List (Keyword Expr) → Except PrintError (List (List Char))
  | [] => .ok []
  | k :: rest => do
    let x ← printKeyword spare k
    let xs ← printKeywords spare rest
    return x :: xs

def printEntry (spare : Bool) : Entry Expr → Except PrintError (List Char)
  | ⟨none, value⟩ => do
    let v ← value.print spare Strength.bitOr
    return '*' :: '*' :: v
  | ⟨some key, value⟩ => do
    let k ← key.print spare Strength.test
    let v ← value.print spare Strength.test
    return k ++ ':' :: ' ' :: v

def printEntries (spare : Bool) : List (Entry Expr) → Except PrintError (List (List Char))
  | [] => .ok []
  | e :: rest => do
    let x ← printEntry spare e
    let xs ← printEntries spare rest
    return x :: xs

def printClause (spare : Bool) : Clause Expr → Except PrintError (List Char)
  | ⟨isAsync, target, source, conditions⟩ => do
    let t ← target.print spare Strength.tuple
    let s ← source.print spare (Strength.next Strength.test)
    let cs ← printAt spare (Strength.next Strength.test) conditions
    return (if isAsync then " async for " else " for ").toList ++ t ++ " in ".toList ++ s ++
      cs.flatMap (" if ".toList ++ ·)

def printClauses (spare : Bool) : List (Clause Expr) → Except PrintError (List Char)
  | [] => .ok []
  | c :: rest => do
    let x ← printClause spare c
    let xs ← printClauses spare rest
    return x ++ xs

/-- Text of a part of a formatted string, as code points: a constant with its braces doubled, a
replacement field, or all parts of a format specification. -/
def Expr.printPart : Expr → Except PrintError (List Nat)
  | .literal (.text points _) => .ok (doubleBraces points)
  | .formatted value conversion spec => do
    let x ← value.print true (Strength.next Strength.test)
    let tail ← printSpec spec
    fieldText x conversion tail
  | .joined parts => do
    let ps ← printParts parts
    return ps.flatMap (·.1)
  | _ => .error .constantInFormatted

def printSpec : Option Expr → Except PrintError (List Nat)
  | none => .ok []
  | some spec => do
    let text ← spec.printPart
    return 58 :: text

def printParts : List Expr → Except PrintError (List (List Nat × Bool))
  | [] => .ok []
  | e :: rest => do
    let x ← e.printPart
    let xs ← printParts rest
    return (x, (match e with | .literal _ => true | _ => false)) :: xs

end

def Expr.text (e : Expr) : Except PrintError String := do
  let cs ← e.print false Strength.test
  return String.ofList cs

end CallAtlas.Source
