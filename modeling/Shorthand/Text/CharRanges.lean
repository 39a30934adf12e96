/-!
Sets of characters given as ascending, disjoint ranges of code points, and the search in them.
-/

namespace Shorthand.Text

/-- Ascending, disjoint ranges of code points, both ends included. -/
structure CharRanges where
  ranges : Array (Nat × Nat)

namespace CharRanges

/-- Binary search among the ranges `low`, …, `high - 1`; every step halves them. -/
def holdsBetween (t : CharRanges) (n : Nat) : (steps low high : Nat) → Bool
  | 0, _, _ => false
  | steps + 1, low, high =>
    if high ≤ low then false
    else
      let middle := (low + high) / 2
      match t.ranges[middle]? with
      | none => false
      | some (first, last) =>
        if n < first then t.holdsBetween n steps low middle
        else if last < n then t.holdsBetween n steps (middle + 1) high
        else true

/-- Whether the character is in one of the ranges. -/
def holds (t : CharRanges) (c : Char) : Bool :=
  t.holdsBetween c.toNat (t.ranges.size.log2 + 2) 0 t.ranges.size

end CharRanges

end Shorthand.Text
