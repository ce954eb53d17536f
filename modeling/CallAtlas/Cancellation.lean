/-!
# Cancellation

A run looks at its token before every piece of work and stops once the token is cancelled.
-/

namespace CallAtlas

/-- A cancellation token: how many more looks at it find it not cancelled; none if all do. -/
structure Token where
  passes : Option Nat
deriving DecidableEq

namespace Token

/-- A token that is never cancelled. -/
def never : Token := ⟨none⟩

/-- A token that is cancelled after a number of looks. -/
def after (n : Nat) : Token := ⟨some n⟩

def cancel (_ : Token) : Token := ⟨some 0⟩

/-- Whether the next look finds the token cancelled. -/
def isCancelled (t : Token) : Bool := t.passes == some 0

/-- Looks at a token: none if it is cancelled, otherwise the token after the look. -/
def check (t : Token) : Option Token :=
  match t.passes with
  | none => some t
  | some 0 => none
  | some (n + 1) => some ⟨some n⟩

/-- What a cancelled run reports. -/
def message : String := "Run was cancelled"

end Token

end CallAtlas
