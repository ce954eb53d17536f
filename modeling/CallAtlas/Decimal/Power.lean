/-!
# Powers

Powers of the two bases between which numerals are converted.
-/

namespace CallAtlas.Decimal

def twoTo (n : Nat) : Nat := Nat.pow 2 n

def tenTo (n : Nat) : Nat := Nat.pow 10 n

theorem twoTo_succ (n : Nat) : twoTo (n + 1) = 2 * twoTo n := by
  exact Nat.mul_comm (twoTo n) 2

theorem tenTo_succ (n : Nat) : tenTo (n + 1) = 10 * tenTo n := by
  exact Nat.mul_comm (tenTo n) 10

end CallAtlas.Decimal
