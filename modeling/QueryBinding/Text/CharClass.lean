-- A class of characters, written as the places where a walk through all
-- characters enters it and leaves it.

namespace QueryBinding.Text

/-- The sorted code points at which membership changes, starting from outside. -/
structure CharClass where
  bounds : Array Nat

namespace CharClass

/-- How many bounds from `low` on, and below `high`, are at most `n`, for sorted bounds. -/
def countUpTo (bounds : Array Nat) (n low high : Nat) : Nat :=
  if low < high then
    let middle := (low + high) / 2
    if bounds.getD middle 0 ≤ n then countUpTo bounds n (middle + 1) high
    else countUpTo bounds n low middle
  else low
termination_by high - low

/-- A character is in the class when an odd number of bounds is passed on the way to it. -/
def holds (s : CharClass) (c : Char) : Bool :=
  countUpTo s.bounds c.toNat 0 s.bounds.size % 2 == 1

end CharClass

end QueryBinding.Text
