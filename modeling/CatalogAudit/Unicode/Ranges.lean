/-!
# Tables of code points

Two ways of storing a function on code points: a set as its ascending ranges,
and a function that is constant on long runs as the first code points of the
runs, together with the value on each.
-/

namespace CatalogAudit.Unicode

/-- A set of code points, as ascending ranges that include both their ends. -/
abbrev CodeRanges := List (Nat × Nat)

/-- `n` lies in one of the ranges; the search ends at the first range above `n`. -/
def CodeRanges.contains : CodeRanges → Nat → Bool
  | [], _ => false
  | (low, high) :: rest, n => !decide (n < low) && (decide (n ≤ high) || contains rest n)

/-- Bisection: the number of entries at most `n` among those of an ascending
    array, known to lie between `low` and `high`. -/
def rankBetween (starts : Array Nat) (n : Nat) : Nat → Nat → Nat → Nat
  | 0, low, _ => low
  | steps + 1, low, high =>
    if low < high then
      let middle := (low + high) / 2
      if starts.getD middle 0 ≤ n then rankBetween starts n steps (middle + 1) high
      else rankBetween starts n steps low middle
    else low

/-- The number of entries of the ascending array `starts` that are at most `n`. -/
def rank (starts : Array Nat) (n : Nat) : Nat :=
  rankBetween starts n starts.size 0 starts.size

end CatalogAudit.Unicode
