import CallAtlas.Source.Expr

/-!
# Tokens

The units of source text.  Layout is part of the token stream: the end of a logical line, a step
to a deeper indentation and a step back are tokens of their own.
-/

namespace CallAtlas.Source

structure StringToken where
  /-- Backslashes stand for themselves. -/
  isRaw : Bool
  isBytes : Bool
  /-- The literal may hold replacement fields. -/
  isFormatted : Bool
  /-- The literal carries the `u` mark. -/
  isMarked : Bool
  /-- The characters between the quotes. -/
  body : List Char

/-- What a token is. -/
inductive TokenKind where
  | ident (id : Ident)
  | keyword (word : String)
  | number (value : Literal)
  | string (literal : StringToken)
  | op (symbol : String)
  | newline
  | indent
  | dedent
  | endMarker

/-- A token with the lines it starts and ends on. -/
structure Token where
  kind : TokenKind
  line : Nat
  lastLine : Nat

def keywords : List String :=
  ["False", "None", "True", "and", "as", "assert", "async", "await", "break", "class", "continue",
    "def", "del", "elif", "else", "except", "finally", "for", "from", "global", "if", "import",
    "in", "is", "lambda", "nonlocal", "not", "or", "pass", "raise", "return", "try", "while",
    "with", "yield"]

def longSymbols : List String := ["**=", "//=", ">>=", "<<=", "..."]

def pairSymbols : List String :=
  ["**", "//", ">>", "<<", "<=", ">=", "==", "!=", "<>", "->", ":=", "+=", "-=", "*=", "/=", "%=",
    "&=", "|=", "^=", "@="]

def singleSymbols : List Char := "+-*/%@&|^~<>()[]\x7b\x7d,:.;=".toList

/-- Whether a token is text of the program rather than layout. -/
def TokenKind.isSolid : TokenKind → Bool
  | .newline | .indent | .dedent | .endMarker => false
  | _ => true

end CallAtlas.Source
