/-! Sets of code points, given as lists of intervals. -/

namespace IppXml.Text

/-- The code points from the first number to the second, both included. -/
abbrev Interval := Nat × Nat

/-- Whether the code point lies in one of the intervals. -/
def inIntervals (intervals : List Interval) (n : Nat) : Bool :=
  intervals.any fun (lo, hi) => lo ≤ n && n ≤ hi

end IppXml.Text
