/-
Decimal notations of a floating-point number. `shortest` finds the fewest digits that read back as the number: for 1, 2, …
digits it tests the two neighbours of the number on that decimal grid against the interval of reals that round to it.
`significant` rounds to a fixed count of digits. `render` writes either with the layout a format asks for.
-/
import Harvest.Number.Binary64

namespace Harvest.Number

/-- the positive number `digits * 10 ^ exponent` -/
structure Decimal where
  digits : Nat
  exponent : Int
  deriving DecidableEq, Repr

namespace Decimal

/-- drop up to `fuel` zeros at the end of the digits -/
def trimZeros : Nat → Decimal → Decimal
  | 0, d => d
  | fuel + 1, d =>
    if d.digits != 0 && d.digits % 10 == 0 then trimZeros fuel ⟨d.digits / 10, d.exponent + 1⟩ else d

/-- the same number without zeros at the end of the digits -/
def trim (d : Decimal) : Decimal :=
  trimZeros (digitCount d.digits) d

/-- `k * 10 ^ e` compared with `num / den`, as two naturals over one denominator -/
def scaled (k : Nat) (e : Int) (num den : Nat) : Nat × Nat :=
  if 0 ≤ e then (k * tenPow e.toNat * den, num) else (k * den, num * tenPow (-e).toNat)

/-- the largest `k` with `k * 10 ^ e ≤ num / den` -/
def floorAt (e : Int) (num den : Nat) : Nat :=
  if 0 ≤ e then num / (den * tenPow e.toNat) else num * tenPow (-e).toNat / den

/-- the reals that round to `m * 2 ^ q` lie between these two, in units of `2 ^ (q - 2)` -/
def neighbourhood (m : Nat) (q : Int) : Nat × Nat :=
  (if m == twoPow 52 && -1074 < q then 4 * m - 1 else 4 * m - 2, 4 * m + 2)

/-- `k * 10 ^ e` rounds to `m * 2 ^ q` -/
def readsBack (m : Nat) (q : Int) (k : Nat) (e : Int) : Bool :=
  let (low, high) := neighbourhood m q
  let lower := scaled k e (Binary64.ratio low (q - 2)).1 (Binary64.ratio low (q - 2)).2
  let upper := scaled k e (Binary64.ratio high (q - 2)).1 (Binary64.ratio high (q - 2)).2
  if m % 2 == 0 then lower.2 ≤ lower.1 && upper.1 ≤ upper.2 else lower.2 < lower.1 && upper.1 < upper.2

/-- of the neighbours of `m * 2 ^ q` on the grid of `10 ^ e`, the nearest one that reads back -/
def onGrid? (m : Nat) (q : Int) (e : Int) : Option Decimal :=
  let (num, den) := Binary64.ratio m q
  let below := floorAt e num den
  match readsBack m q below e, readsBack m q (below + 1) e with
  | false, false => none
  | true, false => some ⟨below, e⟩
  | false, true => some ⟨below + 1, e⟩
  | true, true =>
    let (twiceMiddle, twice) := scaled (2 * below + 1) e (2 * num) den
    some (if twice < twiceMiddle || (twice == twiceMiddle && below % 2 == 0) then ⟨below, e⟩ else ⟨below + 1, e⟩)

/-- the first grid from `10 ^ e` downwards that holds a number that reads back -/
def searchGrid (m : Nat) (q : Int) : Nat → Int → Decimal
  | 0, e => ⟨floorAt e (Binary64.ratio m q).1 (Binary64.ratio m q).2, e⟩
  | fuel + 1, e => (onGrid? m q e).getD (searchGrid m q fuel (e - 1))

/-- the fewest digits that read back as `m * 2 ^ q`; seventeen always do -/
def shortest (m : Nat) (q : Int) : Decimal :=
  let (num, den) := Binary64.ratio m q
  (searchGrid m q 17 (floorLog10 num den)).trim

/-- `m * 2 ^ q` rounded to `count` digits, ties to even -/
def significant (count : Nat) (m : Nat) (q : Int) : Decimal :=
  let (num, den) := Binary64.ratio m q
  let e := floorLog10 num den - count + 1
  let digits := if 0 ≤ e then roundHalfEven num (den * tenPow e.toNat) else roundHalfEven (num * tenPow (-e).toNat) den
  trim ⟨digits, e⟩

end Decimal

/-- how a format lays digits out: which decimal exponents are written positionally, and whether a whole number keeps `.0` -/
structure NumberLayout where
  leastPositional : Int
  pastPositional : Int
  keepPoint : Bool

/-- exponents from -4 to 15 are positional, and a whole number keeps `.0` -/
def plainLayout : NumberLayout := ⟨-4, 16, true⟩

/-- every number with an exponent -/
def exponentLayout : NumberLayout := ⟨0, 0, false⟩

/-- an exponent with its sign and at least two digits -/
def exponentText (e : Int) : List Char :=
  let size := Nat.toDigits 10 e.natAbs
  'e' :: (if e < 0 then '-' else '+') :: (if size.length < 2 then '0' :: size else size)

/-- the digits of a positive decimal as a format lays them out -/
def NumberLayout.digits (layout : NumberLayout) (d : Decimal) : List Char :=
  let ds := Nat.toDigits 10 d.digits
  let place := d.exponent + ds.length - 1
  if layout.leastPositional ≤ place && place < layout.pastPositional then
    if place < 0 then '0' :: '.' :: List.replicate (-place - 1).toNat '0' ++ ds
    else
      let whole := place.toNat + 1
      if ds.length ≤ whole then
        ds ++ List.replicate (whole - ds.length) '0' ++ (if layout.keepPoint then ['.', '0'] else [])
      else ds.take whole ++ '.' :: ds.drop whole
  else
    match ds with
    | [] => []
    | [c] => c :: exponentText place
    | c :: rest => c :: '.' :: rest ++ exponentText place

/-- the shortest text of a number: `1.0`, `1e+16`, `-0.0`, `inf`, `nan` -/
def Binary64.text (x : Binary64) : String :=
  let sign := if x.isNegative then "-" else ""
  match x.magnitude with
  | .nan => "nan"
  | .infinite => sign ++ "inf"
  | .finite 0 _ => sign ++ "0.0"
  | .finite m q => sign ++ String.ofList (plainLayout.digits (Decimal.shortest m q))

end Harvest.Number
