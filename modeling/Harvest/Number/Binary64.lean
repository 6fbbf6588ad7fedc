/-
Binary floating-point numbers of 64 bits as words: one sign bit, eleven exponent bits, 52 fraction bits. A word is read as
a magnitude `significand * 2 ^ exponent`, and a ratio of naturals is rounded to the nearest word, ties to even. All
arithmetic is exact and on naturals, so every comparison and conversion can be reasoned about.
-/
import Harvest.Number.Rounding

namespace Harvest.Number

/-- a floating-point number, given by its bits -/
structure Binary64 where
  bits : UInt64
  deriving DecidableEq, Repr, Inhabited

/-- what a word stands for, its sign apart -/
inductive Magnitude where
  | finite (significand : Nat) (exponent : Int)
  | infinite
  | nan
  deriving DecidableEq, Repr

namespace Binary64

def signBit : Nat := twoPow 63

/-- the word of infinity, and one past the largest finite word -/
def infiniteBits : Nat := 2047 * twoPow 52

def isNegative (x : Binary64) : Bool :=
  signBit ≤ x.bits.toNat

def magnitude (x : Binary64) : Magnitude :=
  let word : Nat := x.bits.toNat % signBit
  let field : Nat := word / twoPow 52
  let fraction := word % twoPow 52
  if field == 2047 then (if fraction == 0 then .infinite else .nan)
  else if field == 0 then .finite fraction (-1074)
  else .finite (twoPow 52 + fraction) ((field : Int) - 1075)

/-- a sign and the other 63 bits -/
def ofFields (negative : Bool) (word : Nat) : Binary64 :=
  ⟨UInt64.ofNat (word + if negative then signBit else 0)⟩

def infinity (negative : Bool) : Binary64 := ofFields negative infiniteBits

def nan : Binary64 := ofFields false (infiniteBits + twoPow 51)

def zero (negative : Bool) : Binary64 := ofFields negative 0

/-- the number nearest to `num / den`, of two equally near ones the one with the even word -/
def ofRatio (negative : Bool) (num den : Nat) : Binary64 :=
  if num == 0 then zero negative
  else
    let shift := max (-1074) (floorLog2 num den - 52)
    let significand :=
      if 0 ≤ shift then roundHalfEven num (den * twoPow shift.toNat)
      else roundHalfEven (num * twoPow (-shift).toNat) den
    ofFields negative (min infiniteBits ((shift + 1074).toNat * twoPow 52 + significand))

/-- the number nearest to `digits * 10 ^ exponent` -/
def ofDecimal (negative : Bool) (digits : Nat) (exponent : Int) : Binary64 :=
  let place := exponent + digitCount digits
  if digits == 0 || place < -330 then zero negative
  else if 310 < place then infinity negative
  else if 0 ≤ exponent then ofRatio negative (digits * tenPow exponent.toNat) 1
  else ofRatio negative digits (tenPow (-exponent).toNat)

/-- the number nearest to an integer -/
def ofInt (n : Int) : Binary64 :=
  ofRatio (n < 0) n.natAbs 1

def isNaN (x : Binary64) : Bool :=
  x.magnitude == .nan

/-- equality of numbers: the two zeros are equal, and what is not a number equals nothing -/
def numericEq (x y : Binary64) : Bool :=
  match x.magnitude, y.magnitude with
  | .nan, _ => false
  | _, .nan => false
  | .finite 0 _, .finite 0 _ => true
  | _, _ => x == y

/-- the integer that the number is, if it is one -/
def toInt? (x : Binary64) : Option Int :=
  match x.magnitude with
  | .finite m e =>
    let size? :=
      if 0 ≤ e then some (m * twoPow e.toNat)
      else if m % twoPow (-e).toNat == 0 then some (m / twoPow (-e).toNat) else none
    size?.map fun n => if x.isNegative then -(n : Int) else n
  | _ => none

/-- the finite magnitude as a ratio of naturals -/
def ratio (significand : Nat) (exponent : Int) : Nat × Nat :=
  if 0 ≤ exponent then (significand * twoPow exponent.toNat, 1) else (significand, twoPow (-exponent).toNat)

end Binary64

end Harvest.Number
