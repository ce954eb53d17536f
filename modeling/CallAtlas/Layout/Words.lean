/-!
# Words

A line is cut into words at blanks.  Quotes keep blanks inside a word, and a backslash keeps the
character after it, between double quotes only a double quote or a backslash.
-/

namespace CallAtlas.Layout

inductive WordError where
  | noClosingQuotation
  | noEscapedCharacter
deriving DecidableEq

def WordError.message : WordError → String
  | .noClosingQuotation => "No closing quotation"
  | .noEscapedCharacter => "No escaped character"

/-- Where a reader of words stands. -/
inductive Place where
  | between
  | inside
  | quoted (quote : Char)
  /-- After a backslash inside a word. -/
  | escaped
  /-- After a backslash between double quotes. -/
  | escapedQuoted
deriving DecidableEq

/-- Blanks that separate words. -/
def separates (c : Char) : Bool := c == ' ' || c == '\t' || c == '\r' || c == '\n'

/-- The place after a character outside quotes, and what it adds to the word. -/
def enter (c : Char) : Place × List Char :=
  if c == '"' || c == '\'' then (.quoted c, [])
  else if c == '\\' then (.escaped, [])
  else (.inside, [c])

/-- The words of a text, given the characters of the current word so far, last one first. -/
def wordsFrom : Place → List Char → List Char → Except WordError (List String)
  | .between, _, [] => .ok []
  | .inside, word, [] => .ok [String.ofList word.reverse]
  | .quoted _, _, [] => .error .noClosingQuotation
  | .escaped, _, [] => .error .noEscapedCharacter
  | .escapedQuoted, _, [] => .error .noEscapedCharacter
  | .between, _, c :: rest =>
    if separates c then wordsFrom .between [] rest
    else wordsFrom (enter c).1 (enter c).2 rest
  | .inside, word, c :: rest =>
    if separates c then do
      let words ← wordsFrom .between [] rest
      return String.ofList word.reverse :: words
    else wordsFrom (enter c).1 ((enter c).2 ++ word) rest
  | .quoted quote, word, c :: rest =>
    if c == quote then wordsFrom .inside word rest
    else if c == '\\' && quote == '"' then wordsFrom .escapedQuoted word rest
    else wordsFrom (.quoted quote) (c :: word) rest
  | .escaped, word, c :: rest => wordsFrom .inside (c :: word) rest
  | .escapedQuoted, word, c :: rest =>
    if c == '"' || c == '\\' then wordsFrom (.quoted '"') (c :: word) rest
    else wordsFrom (.quoted '"') (c :: '\\' :: word) rest

def words (line : String) : Except WordError (List String) :=
  wordsFrom .between [] line.toList

end CallAtlas.Layout
