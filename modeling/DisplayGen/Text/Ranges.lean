/-!
# Sets of characters given by ranges

A property of characters is a list of code point ranges, both ends included. `CodeRange.covers` asks
whether a character lies in one of them.
-/

namespace DisplayGen.Text

/-- The code points from the first to the second, both included. -/
abbrev CodeRange := Nat × Nat

/-- The character lies in one of the ranges. -/
def covers (ranges : List CodeRange) (c : Char) : Bool :=
  ranges.any fun r => decide (r.1 ≤ c.toNat) && decide (c.toNat ≤ r.2)

end DisplayGen.Text
