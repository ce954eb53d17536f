import CallAtlas.Source.Token.Number
import CallAtlas.Text.Compatibility
import CallAtlas.Text.Split

/-!
# Scanning source text

`Token.scan` splits a source text into tokens.  Blank lines and comments leave no token.  Inside
brackets line ends are blanks; outside, the indentation of every line is compared with those of
the open blocks, once with tabs counted to the next multiple of eight and once with tabs counted
as one column, and the two comparisons must agree.
-/

namespace CallAtlas.Source.Token

/-- Deepest nesting of indented blocks, the outermost level included. -/
def indentLimit : Nat := 100

/-- Deepest nesting of brackets. -/
def bracketLimit : Nat := 200

/-- The text with a line feed at its end. -/
def closeLastLine (cs : List Char) : List Char :=
  if cs.getLast? == some '\n' then cs else cs ++ ['\n']

/-- Position of the scanner between two tokens. -/
structure State where
  line : Nat
  /-- Columns of the open blocks, innermost first, counted in both ways. -/
  indents : List (Nat × Nat)
  /-- Closing brackets that are awaited, innermost first. -/
  awaited : List Char

def State.start (line : Nat) : State := ⟨line, [(0, 0)], []⟩

/-! ## Indentation -/

/-- Measured indentation of a line: the two columns, the column at which the first broken line
started, and how many lines were broken. -/
structure Margin where
  column : Nat
  narrow : Nat
  broken : Nat
  lines : Nat

/-- Measures the indentation of a line.  A backslash at a line end joins the next line, and the
indentation before the first such backslash counts. -/
def margin (m : Margin) : List Char → Option (Margin × List Char)
  | ' ' :: rest => margin { m with column := m.column + 1, narrow := m.narrow + 1 } rest
  | '\t' :: rest => margin { m with column := (m.column / 8 + 1) * 8, narrow := m.narrow + 1 } rest
  | '\x0c' :: rest => margin { m with column := 0, narrow := 0 } rest
  | '\\' :: '\n' :: c :: rest =>
    margin { m with
      broken := if m.broken = 0 then m.column else m.broken
      lines := m.lines + 1 } (c :: rest)
  | '\\' :: _ => none
  | cs => some (m, cs)

/-- Layout tokens for a line that starts at the given columns: one step in, or as many steps out
as blocks end, which must lead to the columns of an open block. -/
def layout (column narrow : Nat) (indents : List (Nat × Nat)) :
    Option (List TokenKind × List (Nat × Nat)) :=
  match indents with
  | [] => none
  | (top, topNarrow) :: outer =>
    if column = top then
      if narrow = topNarrow then some ([], indents) else none
    else if top < column then
      if indentLimit ≤ indents.length then none
      else if narrow ≤ topNarrow then none
      else some ([.indent], (column, narrow) :: indents)
    else
      let remaining := ((top, topNarrow) :: outer).dropWhile fun p => column < p.1
      match remaining with
      | (t, n) :: _ =>
        if column = t ∧ narrow = n then
          some (List.replicate (indents.length - remaining.length) .dedent, remaining)
        else none
      | [] => none

/-! ## Words and strings -/

/-- The string mark that a word is, if it is one. -/
def stringMark (word : List Char) : Option StringToken :=
  match String.ofList (word.map Char.toLower) with
  | "" => some ⟨false, false, false, false, []⟩
  | "u" => some ⟨false, false, false, word == ['u'], []⟩
  | "r" => some ⟨true, false, false, false, []⟩
  | "b" => some ⟨false, true, false, false, []⟩
  | "f" => some ⟨false, false, true, false, []⟩
  | "br" | "rb" => some ⟨true, true, false, false, []⟩
  | "fr" | "rf" => some ⟨true, false, true, false, []⟩
  | _ => none

/-- The body of a string in triple quotes and the text after it. -/
def longBody (quote : Char) : List Char → Option (List Char × List Char)
  | [] => none
  | '\\' :: c :: rest => (longBody quote rest).map fun (b, r) => ('\\' :: c :: b, r)
  | c :: rest =>
    if c == quote && [quote, quote].isPrefixOf rest then some ([], rest.drop 2)
    else (longBody quote rest).map fun (b, r) => (c :: b, r)

/-- The body of a string in single quotes and the text after it; it may not run past its line
unless the line end is escaped. -/
def shortBody (quote : Char) : List Char → Option (List Char × List Char)
  | [] => none
  | '\\' :: c :: rest => (shortBody quote rest).map fun (b, r) => ('\\' :: c :: b, r)
  | c :: rest =>
    if c == quote then some ([], rest)
    else if c == '\n' then none
    else (shortBody quote rest).map fun (b, r) => (c :: b, r)

def stringBody (quote : Char) (cs : List Char) : Option (List Char × List Char) :=
  if [quote, quote].isPrefixOf cs then longBody quote (cs.drop 2) else shortBody quote cs

/-- The token of a word: a keyword, or an identifier in compatibility form. -/
def wordKind (word : List Char) : Option TokenKind :=
  if keywords.contains (String.ofList word) then some (.keyword (String.ofList word))
  else if Text.isIdentifier word then
    (Ident.ofChars? (Text.Compatibility.normalize word)).map .ident
  else none

def symbolAt (cs : List Char) : Option (String × List Char) :=
  let three := String.ofList (cs.take 3)
  let two := String.ofList (cs.take 2)
  if longSymbols.contains three then some (three, cs.drop 3)
  else if pairSymbols.contains two then some (two, cs.drop 2)
  else
    match cs with
    | c :: rest => if singleSymbols.contains c then some (c.toString, rest) else none
    | [] => none

/-- Keeps account of brackets: an opening one is awaited to close, a closing one must be the
awaited one. -/
def trackBracket (symbol : String) (awaited : List Char) : Option (List Char) :=
  let openWith (c : Char) : Option (List Char) :=
    if bracketLimit ≤ awaited.length then none else some (c :: awaited)
  let closeWith (c : Char) : Option (List Char) :=
    match awaited with
    | top :: rest => if top == c then some rest else none
    | [] => none
  match symbol with
  | "(" => openWith ')'
  | "[" => openWith ']'
  | "\x7b" => openWith '}'
  | ")" => closeWith ')'
  | "]" => closeWith ']'
  | "\x7d" => closeWith '}'
  | _ => some awaited

/-- The solid token at the start of a text that begins with neither a blank, a comment nor a line
end. -/
def solidAt (st : State) (cs : List Char) : Option (Token × State × List Char) :=
  match cs with
  | [] => none
  | c :: rest =>
    let word := cs.takeWhile Number.isWordChar
    let after := cs.dropWhile Number.isWordChar
    if c.isDigit || (c == '.' && rest.head?.any Char.isDigit) then do
      let (value, remaining) ← Number.scan cs
      some (⟨.number value, st.line, st.line⟩, st, remaining)
    else
      let quoteAfter := match after with
        | q :: _ => if q == '"' || q == '\'' then stringMark word else none
        | [] => none
      match quoteAfter, after with
      | some mark, q :: opened => do
        let (body, remaining) ← stringBody q opened
        let last := st.line + body.count '\n'
        some (⟨.string { mark with body := body }, st.line, last⟩, { st with line := last }, remaining)
      | _, _ =>
        if Number.isWordChar c then do
          let kind ← wordKind word
          some (⟨kind, st.line, st.line⟩, st, after)
        else do
          let (symbol, remaining) ← symbolAt cs
          let awaited ← trackBracket symbol st.awaited
          some (⟨.op symbol, st.line, st.line⟩, { st with awaited := awaited }, remaining)

/-! ## The whole text -/

/-- Tokens from the middle of a line (`fresh = false`) or from the start of one.  Every step takes
at least one character, so the length of the text is fuel enough. -/
def scanFrom : Nat → Bool → State → List Char → Option (List Token)
  | 0, _, _, _ => none
  | fuel + 1, true, st, cs => do
    let (m, rest) ← margin ⟨0, 0, 0, 0⟩ cs
    let st := { st with line := st.line + m.lines }
    match rest with
    | [] =>
      if st.awaited.isEmpty then
        some (List.replicate (st.indents.length - 1) ⟨.dedent, st.line, st.line⟩ ++
          [⟨.endMarker, st.line, st.line⟩])
      else none
    | '\n' :: after => scanFrom fuel true { st with line := st.line + 1 } after
    | '#' :: _ =>
      scanFrom fuel true { st with line := st.line + 1 } ((rest.dropWhile (· != '\n')).drop 1)
    | _ =>
      if st.awaited.isEmpty then do
        let column := if m.broken = 0 then m.column else m.broken
        let narrow := if m.broken = 0 then m.narrow else m.broken
        let (kinds, indents) ← layout column narrow st.indents
        let tail ← scanFrom fuel false { st with indents := indents } rest
        some (kinds.map (⟨·, st.line, st.line⟩) ++ tail)
      else
        scanFrom fuel false st rest
  | fuel + 1, false, st, cs =>
    match cs with
    | [] => none
    | c :: rest =>
      if c == ' ' || c == '\t' || c == '\x0c' then scanFrom fuel false st rest
      else if c == '#' then scanFrom fuel false st (rest.dropWhile (· != '\n'))
      else if c == '\n' then
        let next := { st with line := st.line + 1 }
        if st.awaited.isEmpty then
          (scanFrom fuel true next rest).map (⟨.newline, st.line, st.line⟩ :: ·)
        else
          scanFrom fuel true next rest
      else if c == '\\' then
        match rest with
        | '\n' :: d :: after => scanFrom fuel false { st with line := st.line + 1 } (d :: after)
        | _ => none
      else
        match solidAt st cs with
        | some (token, next, remaining) => (scanFrom fuel false next remaining).map (token :: ·)
        | none => none

/-- The tokens of a source text whose first line has the given number; `none` if the text cannot
be split into tokens. -/
def scan (line : Nat) (text : List Char) : Option (List Token) :=
  let cs := closeLastLine (Text.unifyLineEnds text)
  if cs.contains '\x00' then none else scanFrom (2 * cs.length + 2) true (State.start line) cs

end CallAtlas.Source.Token
