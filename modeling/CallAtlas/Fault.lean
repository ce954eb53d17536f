/-!
# Faults

Whatever a resolver or a layout engine may fail with, as far as a run tells it apart.
-/

namespace CallAtlas

/-- A failure that reaches the boundary of a run. -/
inductive Fault where
  | cancelled
  /-- There is nothing to look at. -/
  | noActiveScope (message : String)
  | unknownMethod (message : String)
  /-- A layout text cannot be read. -/
  | malformedLayout (message : String)
  | other (message : String)
deriving DecidableEq

end CallAtlas
