/-
Numerals: the decimal text of an integer or of a floating-point number, as the reader of a document meets it. `split` cuts
the longest numeral off the front of a text: a minus sign, a whole part without superfluous zeros, and a fraction and an
exponent where they are complete.
-/
import Harvest.Number.Binary64
import Harvest.Text.DecimalDigit

namespace Harvest.Number

open Harvest.Text

/-- the parts of a numeral; a fraction or an exponent makes it a floating-point number -/
structure Numeral where
  negative : Bool
  whole : List Char
  fraction : Option (List Char)
  exponent : Option Int
  deriving Repr

namespace Numeral

/-- a fraction is a point and at least one digit -/
def splitFraction : List Char → Option (List Char) × List Char
  | '.' :: rest =>
    match rest.takeWhile isAsciiDigit with
    | [] => (none, '.' :: rest)
    | digits => (some digits, rest.dropWhile isAsciiDigit)
  | cs => (none, cs)

/-- the digits of an exponent after its letter and sign -/
def exponentDigits (negative : Bool) (cs : List Char) : Option (Int × List Char) :=
  match cs.takeWhile isAsciiDigit with
  | [] => none
  | digits =>
    let size : Int := decimalValue digits
    some (if negative then -size else size, cs.dropWhile isAsciiDigit)

/-- an exponent is a letter `e`, perhaps a sign, and at least one digit -/
def splitExponent (cs : List Char) : Option Int × List Char :=
  let found :=
    match cs with
    | [] => none
    | e :: rest =>
      if e == 'e' || e == 'E' then
        match rest with
        | '-' :: more => exponentDigits true more
        | '+' :: more => exponentDigits false more
        | more => exponentDigits false more
      else none
  match found with
  | some (e, rest) => (some e, rest)
  | none => (none, cs)

/-- a whole part is `0` or starts with another digit -/
def splitWhole : List Char → Option (List Char × List Char)
  | [] => none
  | c :: rest =>
    if c == '0' then some (['0'], rest)
    else if isAsciiDigit c then some (c :: rest.takeWhile isAsciiDigit, rest.dropWhile isAsciiDigit)
    else none

/-- what follows the sign of a numeral -/
def splitUnsigned (negative : Bool) (cs : List Char) : Option (Numeral × List Char) :=
  match splitWhole cs with
  | none => none
  | some (whole, rest) =>
    let (fraction, rest) := splitFraction rest
    let (exponent, rest) := splitExponent rest
    some (⟨negative, whole, fraction, exponent⟩, rest)

/-- the longest numeral at the front of a text, and what follows it -/
def split : List Char → Option (Numeral × List Char)
  | '-' :: rest => splitUnsigned true rest
  | cs => splitUnsigned false cs

/-- the integer a numeral writes, if it has neither a fraction nor an exponent -/
def toInt? (n : Numeral) : Option Int :=
  match n.fraction, n.exponent with
  | none, none =>
    let size : Int := decimalValue n.whole
    some (if n.negative then -size else size)
  | _, _ => none

/-- the floating-point number nearest to what a numeral writes -/
def toBinary64 (n : Numeral) : Binary64 :=
  let fraction := n.fraction.getD []
  .ofDecimal n.negative (decimalValue (n.whole ++ fraction)) (n.exponent.getD 0 - fraction.length)

end Numeral

/-- read the text of a floating-point number back -/
def Binary64.ofText? (s : String) : Option Binary64 :=
  match s with
  | "nan" => some nan
  | "inf" => some (infinity false)
  | "-inf" => some (infinity true)
  | _ =>
    match Numeral.split s.toList with
    | some (n, []) => some n.toBinary64
    | _ => none

end Harvest.Number
