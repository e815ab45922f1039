/-!
# Sets of code points

Character classes are tables of code point ranges.  A range list ascends, so the search in it stops
at the first range above the wanted code point.  A span describes an alphabet whose two cases
alternate, where every second code point belongs to the class.
-/

namespace TypeGraph.Text

/-- Inclusive ranges of code points, disjoint and in ascending order. -/
structure CodeRanges where
  ranges : List (Nat × Nat)

/-- Membership in an ascending list of inclusive ranges. -/
def rangesCover : List (Nat × Nat) → Nat → Bool
  | [], _ => false
  | (first, last) :: rest, n =>
    if n < first then false else if n ≤ last then true else rangesCover rest n

def CodeRanges.covers (table : CodeRanges) (n : Nat) : Bool := rangesCover table.ranges n

/-- The code points `first`, `first + step`, … up to `last`. -/
structure CodeSpan where
  first : Nat
  last : Nat
  step : Nat

def CodeSpan.covers (s : CodeSpan) (n : Nat) : Bool :=
  s.first ≤ n && n ≤ s.last && (n - s.first) % s.step == 0

end TypeGraph.Text
