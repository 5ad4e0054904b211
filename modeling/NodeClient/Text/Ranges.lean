/-!
Sets of code points given by the points where membership changes, in ascending order.
-/

namespace NodeClient

structure Ranges where
  bounds : List Nat

namespace Ranges

/-- A number is inside when an odd number of changes lie at or below it. -/
def contains (r : Ranges) (n : Nat) : Bool :=
  (r.bounds.takeWhile (· ≤ n)).length % 2 == 1

end Ranges

end NodeClient
