/-
Sets of characters given as ranges of code points.
-/
namespace Harvest.Text

/-- the first and the last code point of a range -/
abbrev CodeRange := Nat × Nat

/-- the code point lies in one of the ranges -/
def inRanges (ranges : List CodeRange) (n : Nat) : Bool :=
  ranges.any fun r => r.1 ≤ n && n ≤ r.2

end Harvest.Text
