/-!
# Tallies

How often something was generated for each key.
-/

namespace DisplayGen

/-- Counts by key; a key without a count stands for zero. -/
structure Tally where
  counts : List (String × Nat)
  deriving DecidableEq, Repr, Inhabited

namespace Tally

/-- Nothing has been counted. -/
def empty : Tally := ⟨[]⟩

/-- The count of a key. -/
def get (t : Tally) (key : String) : Nat := (t.counts.lookup key).getD 0

/-- Counts a key once more. -/
def increment (t : Tally) (key : String) : Tally :=
  ⟨(key, t.get key + 1) :: t.counts.filter fun p => p.1 != key⟩

end Tally

end DisplayGen
