/-!
# Tables of code point ranges

A set of code points is stored as the increasing sequence of points at which membership changes:
the set holds the points from the first bound up to the second, from the third up to the fourth,
and so on.  A point belongs to the set when an odd number of bounds is at or below it.
-/

namespace CallAtlas.Text

def hexValue (digits : List Char) : Nat :=
  digits.foldl (fun n c => 16 * n + (if c.isDigit then c.toNat - 48 else c.toNat - 87)) 0

/-- A set of code points, given by its increasing bounds. -/
structure RangeTable where
  bounds : Array Nat

namespace RangeTable

/-- Running sums of a list of gaps, starting from `base`. -/
def sums (base : Nat) : List Nat → List Nat
  | [] => []
  | gap :: rest => (base + gap) :: sums (base + gap) rest

/-- The table whose bounds lie the given hexadecimal gaps apart; the gaps are separated by
single spaces. -/
def ofGaps (lines : List String) : RangeTable :=
  ⟨(sums 0 ((lines.flatMap (·.splitOn " ")).map fun word => hexValue word.toList)).toArray⟩

/-- Number of bounds at or below `n`, by bisection of the positions from `lo` to `hi`. -/
def rank (bounds : Array Nat) (n lo hi : Nat) : Nat :=
  if lo < hi then
    let mid := (lo + hi) / 2
    if bounds.getD mid 0 ≤ n then rank bounds n (mid + 1) hi else rank bounds n lo mid
  else
    lo
termination_by hi - lo

def contains (table : RangeTable) (n : Nat) : Bool :=
  rank table.bounds n 0 table.bounds.size % 2 == 1

end RangeTable

end CallAtlas.Text
