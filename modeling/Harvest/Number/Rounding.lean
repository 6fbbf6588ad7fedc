/-
Powers of two and ten, and rounding a ratio of naturals to the nearest natural, a tie going to the even neighbour.
-/
namespace Harvest.Number

def twoPow (n : Nat) : Nat :=
  Nat.pow 2 n

def tenPow (n : Nat) : Nat :=
  Nat.pow 10 n

/-- the natural nearest to `num / den`; of two equally near ones the even one -/
def roundHalfEven (num den : Nat) : Nat :=
  let twice := 2 * (num % den)
  if den < twice || (twice == den && num / den % 2 == 1) then num / den + 1 else num / den

/-- the largest `k` with `2 ^ k ≤ num / den`, for positive `num` and `den` -/
def floorLog2 (num den : Nat) : Int :=
  let k : Int := (num.log2 : Int) - den.log2
  let reaches := if 0 ≤ k then den * twoPow k.toNat ≤ num else den ≤ num * twoPow (-k).toNat
  if reaches then k else k - 1

/-- how many decimal digits a number is written with -/
def digitCount (n : Nat) : Nat :=
  (Nat.toDigits 10 n).length

/-- the largest `k` with `10 ^ k ≤ num / den`, for positive `num` and `den` -/
def floorLog10 (num den : Nat) : Int :=
  if den ≤ num then (digitCount (num / den) : Int) - 1 else -(digitCount ((den - 1) / num) : Int)

end Harvest.Number
