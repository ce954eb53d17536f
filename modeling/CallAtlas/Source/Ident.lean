import CallAtlas.Text.Identifier

/-!
# Identifiers

Names as they are defined and used in source text.  An identifier is never empty and holds neither
a dot nor a colon, so dotted names and qualified IDs can be taken apart again.
-/

namespace CallAtlas.Source

structure Ident where
  text : String
  valid : Text.isIdentifier text.toList = true
deriving DecidableEq

namespace Ident

def ofChars? (cs : List Char) : Option Ident :=
  if h : Text.isIdentifier (String.ofList cs).toList = true then some ⟨String.ofList cs, h⟩
  else none

def dotted (names : List Ident) : String :=
  String.intercalate "." (names.map (·.text))

end Ident

end CallAtlas.Source
