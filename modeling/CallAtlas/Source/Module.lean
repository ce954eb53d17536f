import CallAtlas.Source.Stmt.Grammar

/-!
# Modules

From source text to the statements of a module.
-/

namespace CallAtlas.Source

/-- The statements of a source text; `none` if the text is not well formed. -/
def parseModule? (text : String) : Option (List Stmt) := do
  let cs := text.toList
  let tokens ← Token.scan 1 cs
  let (body, _) ← (Stmt.parseModule (cs.length + 2) (Token.indentLimit + 1)).run
    (Cursor.ofTokens tokens 1)
  return body

end CallAtlas.Source
