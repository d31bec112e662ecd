/-!
# Sets of characters

Character classes that no short rule describes are given as finite unions of code point
intervals.
-/

namespace Promptline.Text

/-- A set of characters, given by the code point intervals that make it up. -/
structure CharSet where
  /-- Closed intervals of code points, in increasing order. -/
  intervals : List (Nat × Nat)

namespace CharSet

/-- Whether a character lies in one of the intervals. -/
def contains (set : CharSet) (c : Char) : Bool :=
  set.intervals.any fun interval => interval.1 ≤ c.toNat && c.toNat ≤ interval.2

end CharSet

end Promptline.Text
