/-!
This module contains sets of characters as lists of ranges of code points.
-/

namespace FixtureLab
namespace Text

def inRanges (n : Nat) : List (Nat × Nat) → Bool
  | [] => false
  | (first, last) :: rest => if n < first then false else if n ≤ last then true else inRanges n rest

structure Stride where
  first : Nat
  last : Nat
  step : Nat
deriving DecidableEq, Repr

namespace Stride

def contains (s : Stride) (n : Nat) : Bool :=
  s.first ≤ n && n ≤ s.last && (n - s.first) % s.step = 0

end Stride

end Text
end FixtureLab
