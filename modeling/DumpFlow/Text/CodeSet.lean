/-!
Sets of code points, written by the points at which membership changes.
-/

namespace DumpFlow.Text

/-- A set of code points. `flips` is ascending; below its first entry nothing is in the set, and at
each entry membership changes. -/
structure CodeSet where
  flips : List Nat

def CodeSet.contains (s : CodeSet) (c : Char) : Bool :=
  s.flips.countP (· ≤ c.toNat) % 2 == 1

end DumpFlow.Text
